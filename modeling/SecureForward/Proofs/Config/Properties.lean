import SecureForward.Config.Properties
import SecureForward.Proofs.Act
import SecureForward.Proofs.Endpoint.Address

/-!
# Configurations read from properties

`ofProperties_eq_ok_iff` says without the checks on the way which configuration properties describe.
Such a configuration asks for no tunnel at all or is a normal one, and the properties of a normal
configuration describe it again (`ofProperties_normalises`), so what a person wrote is read once and
means the same ever after.
-/

namespace SecureForward.Config

open SecureForward.Text

/-- The text that properties give for the host, with or without a port. -/
def hostText (properties : Properties) : String :=
  let value := properties.value "ssh_host"
  if value.isGiven then value.toText else ""

/-- The configuration that properties describe, with the address and the port that were read from
them. -/
def described (properties : Properties) (address : Address) (targetPort : Int) : Config :=
  let passphrase := properties.value "ssh_private_key_passphrase"
  { host := address.host
    port := address.port
    user := (properties.value "ssh_user").toTrimmed
    keyFile := (properties.value "ssh_private_key_file").toTrimmed
    knownHostsFile := (properties.value "ssh_known_hosts_file").toOptional
    verifiesHost := (properties.value "ssh_strict_host_key_checking").toSwitch true
    targetHost := (properties.value "target_host").toTrimmed
    targetPort
    passphrase := if passphrase.isGiven then passphrase else .null
    enabled := true }

variable {properties : Properties} {config : Config}

/-- Properties that ask for no tunnel are not looked at further. -/
theorem ofProperties_of_off (h : (properties.value "ssh_tunnel_enabled").toSwitch false = false) :
    ofProperties properties = .ok disabled := by
  unfold ofProperties
  rw [h]
  rfl

/-- The address that properties give for the host. -/
def readAddress (properties : Properties) : Except Fault Address :=
  match Address.parse Address.defaultPort (hostText properties) with
  | .ok address => .ok address
  | .error e => .error e.toFault

/-- The address is read where the text for the host is one. -/
theorem readAddress_eq_ok_iff {address : Address} :
    readAddress properties = .ok address ↔
      Address.parse Address.defaultPort (hostText properties) = .ok address := by
  unfold readAddress
  cases Address.parse Address.defaultPort (hostText properties) with
  | error e => simp
  | ok address' => simp

/-- Where a tunnel is asked for, the address is read first, then the target port and the texts, and
the described configuration is checked last. -/
theorem ofProperties_of_on (h : (properties.value "ssh_tunnel_enabled").toSwitch false = true) :
    ofProperties properties = (do
      (properties.value "ssh_host").checkWritable
      let address ← readAddress properties
      let targetPort ← readTargetPort (properties.value "target_port")
      checkTexts properties
      checked (described properties address targetPort)) := by
  unfold ofProperties readAddress
  rw [h]
  simp only [Bool.not_true, Bool.false_eq_true, if_false]
  refine congrArg ((properties.value "ssh_host").checkWritable >>= ·) (funext fun _ => ?_)
  cases hparse : Address.parse Address.defaultPort (hostText properties) with
  | error e =>
    unfold hostText at hparse
    dsimp only at hparse
    rw [hparse]
    rfl
  | ok address =>
    unfold hostText at hparse
    dsimp only at hparse
    rw [hparse]
    rfl

/-- A configuration that asks for a tunnel passes the check if nothing is wrong with it. -/
theorem checked_eq_ok_iff {candidate : Config} (h : candidate.enabled = true) :
    checked candidate = .ok config ↔ candidate.flaw? = none ∧ config = candidate := by
  unfold checked
  rw [h, if_pos rfl]
  cases candidate.flaw? with
  | none => simp [eq_comm]
  | some reason => simp

/-- A value passes the check if all whole numbers in it can be written. -/
theorem checkWritable_eq_ok_iff {value : Value} {done : Unit} :
    value.checkWritable = .ok done ↔ value.isWritable = true := by
  unfold Value.checkWritable
  cases value.isWritable with
  | true => exact ⟨fun _ => rfl, fun _ => rfl⟩
  | false => simp

/-- Properties can be read as texts if all of them can be written. -/
theorem checkTexts_eq_ok_iff {done : Unit} :
    checkTexts properties = .ok done ↔
      ∀ name ∈ textNames, (properties.value name).isWritable = true := by
  unfold checkTexts
  induction textNames with
  | nil => exact iff_of_true rfl (by simp)
  | cons name names ih => simp [bind_eq_ok_iff, checkWritable_eq_ok_iff, ih]

/-- What properties describe: no tunnel, or the tunnel whose fields they name if the values can be
written, the address and the port can be read and nothing is wrong with the whole. -/
theorem ofProperties_eq_ok_iff :
    ofProperties properties = .ok config ↔
      (properties.value "ssh_tunnel_enabled").toSwitch false = false ∧ config = disabled ∨
      (properties.value "ssh_tunnel_enabled").toSwitch false = true ∧
        (properties.value "ssh_host").isWritable = true ∧
        (∀ name ∈ textNames, (properties.value name).isWritable = true) ∧
        ∃ address targetPort,
          Address.parse Address.defaultPort (hostText properties) = .ok address ∧
          readTargetPort (properties.value "target_port") = .ok targetPort ∧
          (described properties address targetPort).flaw? = none ∧
          config = described properties address targetPort := by
  cases hswitch : (properties.value "ssh_tunnel_enabled").toSwitch false with
  | false =>
    rw [ofProperties_of_off hswitch]
    simp [@eq_comm _ config]
  | true =>
    have hchecked (address : Address) (targetPort : Int) :=
      @checked_eq_ok_iff config (described properties address targetPort) rfl
    rw [ofProperties_of_on hswitch]
    simp only [bind_eq_ok_iff, checkWritable_eq_ok_iff, readAddress_eq_ok_iff, checkTexts_eq_ok_iff,
      hchecked]
    constructor
    · rintro ⟨_, hhost, address, haddress, targetPort, hport, _, htexts, hflaw, rfl⟩
      exact .inr ⟨trivial, hhost, htexts, address, targetPort, haddress, hport, hflaw, rfl⟩
    · rintro (⟨h, -⟩ | ⟨-, hhost, htexts, address, targetPort, haddress, hport, hflaw, rfl⟩)
      · cases h
      · exact ⟨(), hhost, address, haddress, targetPort, hport, (), htexts, hflaw, rfl⟩

/-! ## Normal configurations -/

/-- A configuration that asks for a tunnel, as it comes from properties. -/
structure Normal (config : Config) : Prop where
  /-- A tunnel is asked for. -/
  enabled : config.enabled = true
  /-- The host is not empty and holds no colon, and the port is one that can be connected to. -/
  address : (Address.mk config.host config.port).IsPlain
  /-- The user is named. -/
  user : IsFilled config.user
  /-- The key file is named. -/
  keyFile : IsFilled config.keyFile
  /-- The file with the known host keys is named, or left to the default. -/
  knownHostsFile : ∀ path, config.knownHostsFile = some path → IsFilled path
  /-- The host behind the tunnel is named. -/
  targetHost : IsFilled config.targetHost
  /-- The port behind the tunnel is not below 1. -/
  one_le_targetPort : 1 ≤ config.targetPort
  /-- The port behind the tunnel is not above 65535. -/
  targetPort_le : config.targetPort ≤ 65535
  /-- What the private key is decrypted with is nothing or counts as given. -/
  passphrase : config.passphrase = .null ∨ config.passphrase.isGiven = true

/-- Nothing is wrong with a configuration that asks for a tunnel exactly if its texts are not empty
and its ports can be connected to. -/
theorem flaw?_eq_none_iff : config.flaw? = none ↔
    config.host ≠ "" ∧ config.user ≠ "" ∧ config.keyFile ≠ "" ∧ config.targetHost ≠ "" ∧
      (1 ≤ config.port ∧ config.port ≤ 65535) ∧
      1 ≤ config.targetPort ∧ config.targetPort ≤ 65535 := by
  unfold flaw? isPort
  split_ifs <;> simp_all <;> omega

/-- A text that was trimmed and is not empty is a named one. -/
theorem isFilled_toTrimmed {value : Value} (h : value.toTrimmed ≠ "") :
    IsFilled value.toTrimmed := by
  unfold Value.toTrimmed at h ⊢
  split_ifs at h ⊢ with hgiven
  · exact isFilled_trimmed h
  · exact absurd rfl h

/-- A text that may be missing is a named one if it is there. -/
theorem isFilled_of_toOptional {value : Value} {s : String} (h : value.toOptional = some s) :
    IsFilled s := by
  unfold Value.toOptional at h
  split at h
  · cases h
  · dsimp only at h
    split_ifs at h with hempty
    cases h
    exact isFilled_trimmed (by simpa using hempty)

/-- The configuration that properties describe is a normal one if nothing is wrong with it. -/
theorem normal_described {address : Address} {targetPort : Int} (haddress : address.IsPlain)
    (h : (described properties address targetPort).flaw? = none) :
    (described properties address targetPort).Normal := by
  obtain ⟨-, huser, hkey, htarget, -, hlow, hhigh⟩ := flaw?_eq_none_iff.1 h
  refine ⟨rfl, haddress, isFilled_toTrimmed huser, isFilled_toTrimmed hkey,
    fun path hpath => isFilled_of_toOptional hpath, isFilled_toTrimmed htarget, hlow, hhigh, ?_⟩
  unfold described
  dsimp only
  split_ifs with hgiven
  · exact .inr hgiven
  · exact .inl rfl

/-! ## Properties of a configuration -/

/-- A text stands for itself where an empty one counts as not given. -/
theorem ite_text (s : String) :
    (if (Value.text s).isGiven then (Value.text s).toText else "") = s := by
  by_cases hs : s = ""
  · subst hs
    rfl
  · simp [Value.isGiven, Value.toText, hs]

/-- A text is trimmed as such, even where an empty one counts as not given. -/
theorem toTrimmed_text (s : String) : (Value.text s).toTrimmed = trimmed s := by
  unfold Value.toTrimmed
  by_cases hs : s = ""
  · subst hs
    rfl
  · simp [Value.isGiven, Value.toText, hs]

/-- A whole number is read as the target port that it is. -/
theorem readTargetPort_int (n : Int) : readTargetPort (.int n) = .ok n := by
  unfold readTargetPort
  by_cases hn : n = 0
  · subst hn
    rfl
  · simp [Value.isGiven, Value.toInteger, hn]

/-- The properties of a normal configuration describe it. -/
theorem described_toProperties (h : config.Normal) :
    described config.toProperties ⟨config.host, config.port⟩ config.targetPort = config := by
  have huser : (Value.text config.user).toTrimmed = config.user := by
    rw [toTrimmed_text, h.user.trimmed_eq]
  have hkey : (Value.text config.keyFile).toTrimmed = config.keyFile := by
    rw [toTrimmed_text, h.keyFile.trimmed_eq]
  have htarget : (Value.text config.targetHost).toTrimmed = config.targetHost := by
    rw [toTrimmed_text, h.targetHost.trimmed_eq]
  have hknown :
      (config.knownHostsFile.elim Value.null .text).toOptional = config.knownHostsFile := by
    cases hfile : config.knownHostsFile with
    | none => rfl
    | some path =>
      have hpath := h.knownHostsFile path hfile
      simp [Value.toOptional, Value.toText, hpath.trimmed_eq, hpath.ne_empty]
  have hpassphrase : (if config.passphrase.isGiven then config.passphrase else .null) =
      config.passphrase := by
    rcases h.passphrase with hnull | hgiven
    · rw [hnull]
      rfl
    · rw [if_pos hgiven]
  change Config.mk config.host config.port (Value.text config.user).toTrimmed
    (Value.text config.keyFile).toTrimmed (config.knownHostsFile.elim Value.null .text).toOptional
    config.verifiesHost (Value.text config.targetHost).toTrimmed config.targetPort
    (if config.passphrase.isGiven then config.passphrase else .null) true = config
  rw [huser, hkey, htarget, hknown, hpassphrase, ← h.enabled]

/-- The properties of a normal configuration are read as this configuration. -/
theorem ofProperties_toProperties (h : config.Normal) :
    ofProperties config.toProperties = .ok config := by
  have hdescribed := described_toProperties h
  have hhost : hostText config.toProperties = toString (Address.mk config.host config.port) :=
    ite_text _
  have htexts : ∀ name ∈ textNames, (config.toProperties.value name).isWritable = true := by
    have hknown : (config.knownHostsFile.elim Value.null .text).isWritable = true := by
      cases config.knownHostsFile <;> rfl
    simp only [textNames, List.mem_cons, List.not_mem_nil, or_false, forall_eq_or_imp, forall_eq]
    exact ⟨rfl, rfl, hknown, rfl⟩
  refine ofProperties_eq_ok_iff.2 (.inr ⟨?_, rfl, htexts, ⟨config.host, config.port⟩,
    config.targetPort, ?_, ?_, ?_, ?_⟩)
  · change Value.toSwitch false (.bool config.enabled) = true
    rw [h.enabled]
    rfl
  · rw [hhost]
    exact Address.parse_toString h.address _
  · exact readTargetPort_int config.targetPort
  · rw [hdescribed]
    exact flaw?_eq_none_iff.2 ⟨h.address.host_ne, h.user.ne_empty, h.keyFile.ne_empty,
      h.targetHost.ne_empty, ⟨h.address.one_le, h.address.le_last⟩, h.one_le_targetPort,
      h.targetPort_le⟩
  · exact hdescribed.symm

/-- A configuration that is read from properties asks for no tunnel, with nothing in its fields, or
is a normal one, which its own properties describe again. -/
theorem ofProperties_normalises (h : ofProperties properties = .ok config) :
    config = disabled ∨ config.Normal ∧ ofProperties config.toProperties = .ok config := by
  rcases ofProperties_eq_ok_iff.1 h with
    ⟨-, rfl⟩ | ⟨-, -, -, address, targetPort, hparse, -, hflaw, rfl⟩
  · exact .inl rfl
  · have haddress := Address.isPlain_of_parse (by decide) (by decide) hparse
    have hnormal := normal_described haddress hflaw
    exact .inr ⟨hnormal, ofProperties_toProperties hnormal⟩

/-- Properties as a careless person writes them: blanks at the ends, a number for a user, a port in
other digits. -/
def trialProperties : Properties :=
  [("ssh_tunnel_enabled", .text " Yes "), ("ssh_host", .text " gate :2022\n"), ("ssh_user", .int 7),
    ("ssh_private_key_file", .text "\tkeys/id "), ("ssh_private_key_passphrase", .bool false),
    ("ssh_known_hosts_file", .text "  "), ("ssh_strict_host_key_checking", .text "on"),
    ("target_host", .text "db\u00a0"), ("target_port", .text " \u0664\u0662 ")]

/-- What the trial properties describe. -/
def trialConfig : Config :=
  { host := "gate ", port := 2022, user := "7", keyFile := "keys/id", knownHostsFile := none,
    verifiesHost := true, targetHost := "db", targetPort := 42, passphrase := .null,
    enabled := true }

/-- The careless properties are read, and what they mean is a normal configuration. -/
theorem ofProperties_normalises_trial : ofProperties trialProperties = .ok trialConfig ∧
    (trialConfig = disabled ∨
      trialConfig.Normal ∧ ofProperties trialConfig.toProperties = .ok trialConfig) :=
  have hread : ofProperties trialProperties = .ok trialConfig := by rfl
  ⟨hread, ofProperties_normalises hread⟩

end SecureForward.Config
