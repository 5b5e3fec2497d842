import SecureForward.Proofs.CommandLine.Arguments
import SecureForward.Proofs.Config.Properties
import SecureForward.Proofs.Decimal.Integer

/-!
# The two ways to ask for a tunnel

A tunnel is asked for with arguments or with properties, and each has a reader of its own. `Request`
is what a person may want, and `Request.outcome` what should come of it, without regard to how it is
said: the address is read first, and the configuration that is asked for is checked as a whole. Both
readers come to this outcome (`ofArguments_arguments`, `ofProperties_of_isSaidBy`), so they agree on
every request, right or wrong.

Properties are trimmed and arguments are not, and an empty passphrase counts as one on the command
line only. `IsTidy` leaves out the requests for which this makes a difference. Each request can be
put on the command line, unless one of its texts is the separator of options or its port takes too
many digits (`parse_words`).
-/

namespace SecureForward.Config

open SecureForward.CommandLine (Flag Setting Sets flags optionsOf parse parse_settings setAll)
open SecureForward.Text (trimmed)

/-- What a person wants of a tunnel. -/
structure Request where
  /-- The host that the tunnel goes through, with or without a port. -/
  host : String
  /-- The user to log in as. -/
  user : String
  /-- The file with the private key. -/
  keyFile : String
  /-- What the private key is decrypted with, if anything is said about it. -/
  passphrase : Option String
  /-- The file with the known host keys, if anything is said about it. -/
  knownHosts : Option String
  /-- Whether the host is to be verified. -/
  verifiesHost : Bool
  /-- The host behind the tunnel. -/
  targetHost : String
  /-- The port of that host. -/
  targetPort : Int

namespace Request

/-- The value of a text about which something is said or nothing. -/
def valueOf? (text : Option String) : Value :=
  text.elim .null .text

/-- The arguments that say so. -/
def arguments (r : Request) (acceptsNewHosts : Bool) : Arguments :=
  { host := .text r.host, user := .text r.user, keyFile := .text r.keyFile,
    passphrase := valueOf? r.passphrase, knownHosts := valueOf? r.knownHosts,
    verifiesHost := r.verifiesHost, targetHost := .text r.targetHost,
    targetPort := .int r.targetPort, acceptsNewHosts }

/-- Properties say so. The switches may be put in any words that mean it. -/
structure IsSaidBy (r : Request) (properties : Properties) : Prop where
  /-- A tunnel is asked for. -/
  enabled : (properties.value "ssh_tunnel_enabled").toSwitch false = true
  /-- The host is named. -/
  host : properties.value "ssh_host" = .text r.host
  /-- The user is named. -/
  user : properties.value "ssh_user" = .text r.user
  /-- The key file is named. -/
  keyFile : properties.value "ssh_private_key_file" = .text r.keyFile
  /-- The passphrase is given, or nothing is said about it. -/
  passphrase : properties.value "ssh_private_key_passphrase" = valueOf? r.passphrase
  /-- The file with the known host keys is named, or nothing is said about it. -/
  knownHosts : properties.value "ssh_known_hosts_file" = valueOf? r.knownHosts
  /-- It is said whether the host is to be verified. -/
  verifiesHost : (properties.value "ssh_strict_host_key_checking").toSwitch true = r.verifiesHost
  /-- The host behind the tunnel is named. -/
  targetHost : properties.value "target_host" = .text r.targetHost
  /-- The port of that host is given. -/
  targetPort : properties.value "target_port" = .int r.targetPort

/-- A request without blanks around its texts. The host may have some, and so may the passphrase,
but this is not empty. -/
structure IsTidy (r : Request) : Prop where
  /-- No blanks are around the user. -/
  user : trimmed r.user = r.user
  /-- No blanks are around the key file. -/
  keyFile : trimmed r.keyFile = r.keyFile
  /-- The passphrase is not empty. -/
  passphrase : r.passphrase ≠ some ""
  /-- No blanks are around the file with the known host keys. -/
  knownHosts : ∀ path, r.knownHosts = some path → trimmed path = path
  /-- No blanks are around the host behind the tunnel. -/
  targetHost : trimmed r.targetHost = r.targetHost

/-- The configuration that is asked for, with the address that was read. An empty name for the file
with the known host keys leaves the default one. -/
def config (r : Request) (address : Address) : Config :=
  { host := address.host
    port := address.port
    user := r.user
    keyFile := r.keyFile
    knownHostsFile := r.knownHosts.filter (· ≠ "")
    verifiesHost := r.verifiesHost
    targetHost := r.targetHost
    targetPort := r.targetPort
    passphrase := valueOf? r.passphrase
    enabled := true }

/-- What comes of a request, however it is said. -/
def outcome (r : Request) : Except Fault Config :=
  match Address.parse Address.defaultPort r.host with
  | .ok address => checked (r.config address)
  | .error e => .error e.toFault

/-! ## Arguments -/

/-- An argument that is missing or empty names no file. -/
theorem ite_isGiven_valueOf? (text : Option String) :
    (if (valueOf? text).isGiven then some (argumentText (valueOf? text)) else none) =
      text.filter (· ≠ "") := by
  cases text with
  | none => rfl
  | some s =>
    by_cases hs : s = ""
    · subst hs
      rfl
    · simp [valueOf?, Value.isGiven, argumentText, Option.filter, hs]

/-- The arguments that say so come to the outcome of a request. -/
theorem ofArguments_arguments (r : Request) (acceptsNewHosts : Bool) :
    ofArguments (r.arguments acceptsNewHosts) = r.outcome := by
  unfold ofArguments outcome arguments config
  dsimp only
  rw [ite_isGiven_valueOf?]
  cases Address.parse Address.defaultPort r.host with
  | error e => rfl
  | ok address => rfl

/-! ## Properties -/

/-- A text that may be missing is trimmed as such; an empty one counts as missing. -/
theorem toOptional_valueOf? {text : Option String} (h : ∀ s, text = some s → trimmed s = s) :
    (valueOf? text).toOptional = text.filter (· ≠ "") := by
  cases text with
  | none => rfl
  | some s =>
    have htrimmed : (Value.text s).toOptional = if s.isEmpty then none else some s := by
      unfold Value.toOptional Value.toText
      dsimp only
      rw [h s rfl]
    by_cases hs : s = ""
    · subst hs
      exact htrimmed
    · simp [valueOf?, htrimmed, Option.filter, hs]

/-- A passphrase that is not empty counts as given. -/
theorem ite_isGiven_passphrase {text : Option String} (h : text ≠ some "") :
    (if (valueOf? text).isGiven then valueOf? text else .null) = valueOf? text := by
  cases text with
  | none => rfl
  | some s =>
    have hs : s ≠ "" := fun hs => h (congrArg some hs)
    simp [valueOf?, Value.isGiven, hs]

variable {r : Request} {properties : Properties}

/-- The configuration that properties describe is the one that is asked for. -/
theorem described_of_isSaidBy (htidy : r.IsTidy) (h : r.IsSaidBy properties) (address : Address) :
    described properties address r.targetPort = r.config address := by
  unfold described config
  dsimp only
  rw [h.user, h.keyFile, h.knownHosts, h.verifiesHost, h.targetHost, h.passphrase]
  rw [toTrimmed_text, toTrimmed_text, toTrimmed_text, htidy.user, htidy.keyFile, htidy.targetHost,
    toOptional_valueOf? htidy.knownHosts, ite_isGiven_passphrase htidy.passphrase]

/-- The properties that say so come to the outcome of a tidy request. -/
theorem ofProperties_of_isSaidBy (htidy : r.IsTidy) (h : r.IsSaidBy properties) :
    ofProperties properties = r.outcome := by
  have hhost : (properties.value "ssh_host").checkWritable = .ok () := by
    rw [h.host]
    rfl
  have htext : hostText properties = r.host := by
    unfold hostText
    rw [h.host]
    exact ite_text r.host
  have hport : readTargetPort (properties.value "target_port") = .ok r.targetPort := by
    rw [h.targetPort]
    exact readTargetPort_int r.targetPort
  -- All values that are read as texts are texts or missing.
  have htexts : checkTexts properties = .ok () := by
    have hknown : (properties.value "ssh_known_hosts_file").isWritable = true := by
      rw [h.knownHosts]
      cases r.knownHosts <;> rfl
    refine checkTexts_eq_ok_iff.2 ?_
    simp only [textNames, List.forall_mem_cons, List.not_mem_nil, false_imp_iff, implies_true,
      and_true]
    exact ⟨by rw [h.user]; rfl, by rw [h.keyFile]; rfl, hknown, by rw [h.targetHost]; rfl⟩
  rw [ofProperties_of_on h.enabled, hhost]
  unfold readAddress outcome
  rw [htext]
  cases Address.parse Address.defaultPort r.host with
  | error e => rfl
  | ok address =>
    calc (readTargetPort (properties.value "target_port") >>= fun targetPort =>
          checkTexts properties >>= fun _ => checked (described properties address targetPort))
        = (checkTexts properties >>= fun _ =>
            checked (described properties address r.targetPort)) := by
          rw [hport]
          rfl
      _ = checked (described properties address r.targetPort) := by
          rw [htexts]
          rfl
      _ = checked (r.config address) := by rw [described_of_isSaidBy htidy h]

/-! ## Command lines -/

/-- A setting for a text about which something is said, and none otherwise. -/
def settings? (flag : Flag) (text : Option String) : List (Setting × Value) :=
  text.elim [] fun s => [((flag, some s), .text s)]

/-- The settings that say so, with the values that they give to the options of a command. -/
def settings (r : Request) : List (Setting × Value) :=
  [((.host, some r.host), .text r.host), ((.user, some r.user), .text r.user),
    ((.keyFile, some r.keyFile), .text r.keyFile)] ++
  settings? .passphrase r.passphrase ++ settings? .knownHosts r.knownHosts ++
  (if r.verifiesHost then [] else [((.unverified, none), .null)]) ++
  [((.targetHost, some r.targetHost), .text r.targetHost),
    ((.targetPort, some (toString r.targetPort)), .int r.targetPort)]

/-- The words behind the command that say so. -/
def words (r : Request) : List String :=
  r.settings.map (·.1.written)

/-- A request that can be put on the command line. -/
structure IsSayable (r : Request) : Prop where
  /-- No text is the separator of options. -/
  ne_separator :
    ∀ s ∈ [r.host, r.user, r.keyFile, r.targetHost] ++ r.passphrase.toList ++ r.knownHosts.toList,
    s ≠ "--"
  /-- The port does not take too many digits. -/
  isWritable : Decimal.isWritable r.targetPort = true

variable {command : Command}

/-- A text that is not the separator is the value of the option to which it is attached. -/
theorem sets_text {flag : Flag} (hknown : flag ∈ flags command) (htakes : flag.takesValue = true)
    (hport : flag ≠ .targetPort) {s : String} (hs : s ≠ "--") :
    Sets command (flag, some s) (.text s) := by
  refine .value hknown htakes ?_
  unfold CommandLine.valueOf
  rw [if_neg hs, if_neg hport]

/-- A whole number that can be written is the port that is set. -/
theorem sets_targetPort (hknown : .targetPort ∈ flags command) {n : Int}
    (hn : Decimal.isWritable n = true) :
    Sets command (.targetPort, some (toString n)) (.int n) := by
  have hread := Decimal.readInteger_toString hn
  have hseparator : toString n ≠ "--" := by
    intro hn
    have hmalformed : Decimal.readInteger "--" = .error (.malformed "--") := by rfl
    rw [hn, hmalformed] at hread
    cases hread
  refine .value hknown rfl ?_
  unfold CommandLine.valueOf
  rw [if_neg hseparator, if_pos rfl, hread]

/-- Of a text about which nothing is said there is nothing to set. -/
theorem sets_of_mem_settings? {flag : Flag} (hknown : flag ∈ flags command)
    (htakes : flag.takesValue = true)
    (hport : flag ≠ .targetPort) {text : Option String} (htext : ∀ s ∈ text.toList, s ≠ "--") :
    ∀ entry ∈ settings? flag text, Sets command entry.1 entry.2 := by
  cases text with
  | none => simp [settings?]
  | some s =>
    have hs : s ≠ "--" := htext s List.mem_cons_self
    simpa [settings?] using sets_text hknown htakes hport hs

/-- The settings of a sayable request set what is asked for. -/
theorem sets_of_mem_settings (h : r.IsSayable) (command : Command) :
    ∀ entry ∈ r.settings, Sets command entry.1 entry.2 := by
  have hknown :
      ∀ flag ∈ [Flag.host, .user, .keyFile, .passphrase, .knownHosts, .unverified, .targetHost,
      .targetPort], flag ∈ flags command := by cases command <;> decide
  simp only [List.forall_mem_cons] at hknown
  obtain ⟨hhost, huser, hkey, hpassphrase, hknownHosts, hunverified, htarget, hport, -⟩ := hknown
  obtain ⟨hseparator, hwritable⟩ := h
  simp only [List.forall_mem_append, List.forall_mem_cons] at hseparator
  obtain ⟨⟨⟨hhost', huser', hkey', htarget', -⟩, hpassphrase'⟩, hknownHosts'⟩ := hseparator
  unfold settings
  simp only [List.forall_mem_append, List.forall_mem_cons]
  refine ⟨⟨⟨⟨⟨?_, ?_, ?_, by simp⟩, ?_⟩, ?_⟩, ?_⟩, ?_, ?_, by simp⟩
  · exact sets_text hhost rfl (by decide) hhost'
  · exact sets_text huser rfl (by decide) huser'
  · exact sets_text hkey rfl (by decide) hkey'
  · exact sets_of_mem_settings? hpassphrase rfl (by decide) hpassphrase'
  · exact sets_of_mem_settings? hknownHosts rfl (by decide) hknownHosts'
  · cases r.verifiesHost with
    | true => simp
    | false => simpa using Sets.switch hunverified rfl (by decide)
  · exact sets_text htarget rfl (by decide) htarget'
  · exact sets_targetPort hport hwritable

/-- No required option is missing. -/
theorem mem_optionsOf_settings (r : Request) (command : Command) :
    ∀ flag ∈ flags command, flag.isRequired = true → flag ∈ optionsOf r.settings := by
  have hrequired : ∀ flag : Flag, flag.isRequired = true →
      flag ∈ [Flag.host, .user, .keyFile] ∨ flag ∈ [Flag.targetHost, .targetPort] := by
    intro flag
    cases flag <;> decide
  intro flag _ hflag
  unfold optionsOf settings
  simp only [List.map_append, List.mem_append]
  rcases hrequired flag hflag with hflag | hflag
  · exact .inl (.inl (.inl (.inl hflag)))
  · exact .inr hflag

/-- The settings make the arguments. -/
theorem setAll_settings (r : Request) (acceptsNewHosts : Bool) :
    setAll (CommandLine.noArguments acceptsNewHosts) r.settings = r.arguments acceptsNewHosts := by
  obtain ⟨host, user, keyFile, passphrase, knownHosts, verifiesHost, targetHost, targetPort⟩ := r
  cases passphrase <;> cases knownHosts <;> cases verifiesHost <;> rfl

/-- A request on the command line is read as the arguments that say so. -/
theorem parse_words (h : r.IsSayable) (command : Command) (acceptsNewHosts : Bool) :
    parse acceptsNewHosts (command.word :: r.words) =
      .ok (some (command, r.arguments acceptsNewHosts)) := by
  rw [← setAll_settings]
  exact parse_settings (sets_of_mem_settings h command) (mem_optionsOf_settings r command)
    acceptsNewHosts

/-- The arguments and the properties of a tidy request are read alike, as the configuration that is
asked for or with the same fault, whatever is wrong with it. The arguments are those of a command
line, where the request can be put on one. -/
theorem arguments_agree_with_properties (htidy : r.IsTidy) (h : r.IsSaidBy properties)
    (acceptsNewHosts : Bool) :
    ofArguments (r.arguments acceptsNewHosts) = ofProperties properties ∧
      ofProperties properties = r.outcome ∧
      (r.IsSayable → ∀ command : Command, parse acceptsNewHosts (command.word :: r.words) =
        .ok (some (command, r.arguments acceptsNewHosts))) := by
  have harguments := ofArguments_arguments r acceptsNewHosts
  have hproperties := ofProperties_of_isSaidBy htidy h
  exact ⟨harguments.trans hproperties.symm, hproperties, fun hsayable command =>
    parse_words hsayable command acceptsNewHosts⟩

/-- A request with blanks around the host and inside of the passphrase, and an empty name for a
file. -/
def trialRequest (targetPort : Int) : Request :=
  { host := " gate:2022 ", user := "ada", keyFile := "keys/my id",
    passphrase := some " open sesame", knownHosts := some "", verifiesHost := false,
    targetHost := "db", targetPort }

/-- The same request in properties. -/
def trialSaying (targetPort : Int) : Properties :=
  [("ssh_tunnel_enabled", .text " Yes "), ("ssh_host", .text " gate:2022 "),
    ("ssh_user", .text "ada"), ("ssh_private_key_file", .text "keys/my id"),
    ("ssh_private_key_passphrase", .text " open sesame"),
    ("ssh_known_hosts_file", .text ""), ("ssh_strict_host_key_checking", .text "off"),
    ("target_host", .text "db"), ("target_port", .int targetPort)]

/-- The request is tidy, whatever the port. -/
theorem isTidy_trialRequest (targetPort : Int) : (trialRequest targetPort).IsTidy where
  user := show trimmed "ada" = "ada" by decide
  keyFile := show trimmed "keys/my id" = "keys/my id" by decide
  passphrase := show some " open sesame" ≠ some "" by decide
  knownHosts := by
    intro path hpath
    obtain rfl := Option.some.inj hpath
    decide
  targetHost := show trimmed "db" = "db" by decide

/-- The properties say so. -/
theorem isSaidBy_trialSaying (targetPort : Int) :
    (trialRequest targetPort).IsSaidBy (trialSaying targetPort) := by
  constructor <;> rfl

/-- With a port that can be connected to, the request is read on both ways; with another port, it is
refused on both, in the same words. -/
theorem arguments_agree_with_properties_trial :
    ((trialRequest 5432).IsTidy ∧ (trialRequest 5432).IsSaidBy (trialSaying 5432) ∧
      (trialRequest 5432).IsSayable ∧
      ofArguments ((trialRequest 5432).arguments true) = ofProperties (trialSaying 5432) ∧
      ofProperties (trialSaying 5432) =
        .ok ((trialRequest 5432).config { host := "gate", port := 2022 }) ∧
      parse true ["open", "--ssh-host= gate:2022 ", "--ssh-user=ada", "--private-key=keys/my id",
        "--passphrase= open sesame", "--known-hosts=", "--no-strict-host-key-checking",
        "--target-host=db", "--target-port=5432"] =
          .ok (some (.openTunnel, (trialRequest 5432).arguments true))) ∧
      ofArguments ((trialRequest 70000).arguments false) = ofProperties (trialSaying 70000) ∧
      ofProperties (trialSaying 70000) = .error (.refusal .invalidTargetPort) := by
  have hsayable : (trialRequest 5432).IsSayable := ⟨by decide, by decide⟩
  obtain ⟨hagree, houtcome, hparse⟩ :=
    arguments_agree_with_properties (isTidy_trialRequest 5432) (isSaidBy_trialSaying 5432) true
  obtain ⟨hagree', houtcome', -⟩ :=
    arguments_agree_with_properties (isTidy_trialRequest 70000) (isSaidBy_trialSaying 70000) false
  exact ⟨⟨isTidy_trialRequest 5432, isSaidBy_trialSaying 5432, hsayable, hagree, houtcome.trans rfl,
    hparse hsayable .openTunnel⟩, hagree', houtcome'.trans rfl⟩

end Request

end SecureForward.Config
