import SecureForward.Proofs.Config.Properties
import SecureForward.Proofs.Trust.Policy

/-!
# Who turns host verification off

The host is verified unless the properties say otherwise. A value of the switch says no if it is
false, zero or one of four words. `verification_off_iff` says that verification is off exactly if
the switch says no or is unclear: a word that means neither yes nor no, or an empty collection. So a
word that is spelt wrong turns it off.
-/

namespace SecureForward

open Act (run)
open SecureForward.Text (lower trim)

namespace Value

/-- The words that mean no. -/
def negatives : List String := ["0", "false", "no", "off"]

/-- Whether a text means no, small letters or capitals, with or without blanks around it. -/
def meansNo (s : String) : Bool :=
  negatives.contains (.ofList (lower (trim s.toList)))

/-- A value says no: it is false, zero, or a word for it. -/
inductive SaysNo : Value → Prop where
  /-- The value is false. -/
  | bool : SaysNo (.bool false)
  /-- The whole number is zero. -/
  | int : SaysNo (.int 0)
  /-- The double is zero. -/
  | float {x : Float} (h : (x == 0) = true) : SaysNo (.float x)
  /-- The word means no. -/
  | text {s : String} (h : meansNo s = true) : SaysNo (.text s)

/-- A value is there and says neither yes nor no, but counts as a no. -/
inductive IsUnclear : Value → Prop where
  /-- The text is not blank, and no word for yes or no. -/
  | text {s : String} (filled : trim s.toList ≠ []) (yes : meansYes s = false)
      (no : meansNo s = false) : IsUnclear (.text s)
  /-- There are no values in the sequence. -/
  | list : IsUnclear (.list [])
  /-- There are no named values. -/
  | map : IsUnclear (.map [])

/-- A word that means no is not blank, and does not mean yes. -/
theorem of_meansNo {s : String} (h : meansNo s = true) :
    trim s.toList ≠ [] ∧ meansYes s = false := by
  unfold meansNo at h
  unfold meansYes
  constructor
  · intro hblank
    rw [hblank] at h
    revert h
    decide
  · have hdisjoint : ∀ word ∈ negatives, affirmatives.contains word = false := by decide
    exact hdisjoint _ (by simpa using h)

/-- A switch that is on by default is off exactly if its value says no, or is unclear. -/
theorem toSwitch_true_eq_false_iff {value : Value} :
    value.toSwitch true = false ↔ value.SaysNo ∨ value.IsUnclear := by
  constructor
  · intro h
    cases value with
    | null => cases h
    | bool b =>
      obtain rfl : b = false := h
      exact .inl .bool
    | int n =>
      have hn : (n != 0) = false := h
      obtain rfl : n = 0 := by simpa using hn
      exact .inl .int
    | float x =>
      have hx : (x != 0) = false := h
      exact .inl (.float (by simpa [bne] using hx))
    | text s =>
      have hs : (if (trim s.toList).isEmpty then true else meansYes s) = false := h
      split_ifs at hs with hblank
      cases hno : meansNo s with
      | true => exact .inl (.text hno)
      | false => exact .inr (.text (by simpa using hblank) hs hno)
    | list values =>
      have hempty : (!values.isEmpty) = false := h
      obtain rfl : values = [] := by simpa using hempty
      exact .inr .list
    | map entries =>
      have hempty : (!entries.isEmpty) = false := h
      obtain rfl : entries = [] := by simpa using hempty
      exact .inr .map
  · have htext {s : String} (hfilled : trim s.toList ≠ []) (hyes : meansYes s = false) :
        (Value.text s).toSwitch true = false := by
      change (if (trim s.toList).isEmpty then true else meansYes s) = false
      rw [if_neg (by simpa using hfilled), hyes]
    rintro (h | h)
    · cases h with
      | bool => rfl
      | int => rfl
      | @float x hx =>
        change (!x == 0) = false
        rw [hx]
        rfl
      | text hno => exact htext (of_meansNo hno).1 (of_meansNo hno).2
    · cases h with
      | text hfilled hyes => exact htext hfilled hyes
      | list => rfl
      | map => rfl

end Value

namespace Config

variable {properties : Properties} {config : Config}

/-- A configuration that asks for a tunnel verifies the host as the switch says. -/
theorem verifiesHost_eq (h : ofProperties properties = .ok config) (hon : config.enabled = true) :
    config.verifiesHost = (properties.value "ssh_strict_host_key_checking").toSwitch true := by
  rcases ofProperties_eq_ok_iff.1 h with ⟨-, rfl⟩ | ⟨-, -, -, address, targetPort, -, -, -, rfl⟩
  · cases hon
  · rfl

/-- Where properties ask for a tunnel, its host is not verified exactly if the switch says no or is
unclear, and exactly then the decision about the host is to trust it unseen. -/
theorem verification_off_iff (h : ofProperties properties = .ok config)
    (hon : config.enabled = true) :
    (config.verifiesHost = false ↔
      (properties.value "ssh_strict_host_key_checking").SaysNo ∨
        (properties.value "ssh_strict_host_key_checking").IsUnclear) ∧
    ∀ policy : TrustPolicy, ∀ machine,
      (run (policy.resolve config) machine).1 = .ok .disabled ↔
        (properties.value "ssh_strict_host_key_checking").SaysNo ∨
          (properties.value "ssh_strict_host_key_checking").IsUnclear := by
  have hswitch : config.verifiesHost = false ↔
      (properties.value "ssh_strict_host_key_checking").SaysNo ∨
        (properties.value "ssh_strict_host_key_checking").IsUnclear := by
    rw [verifiesHost_eq h hon]
    exact Value.toSwitch_true_eq_false_iff
  exact ⟨hswitch, fun policy machine => TrustPolicy.resolve_eq_disabled_iff.trans hswitch⟩

/-- Properties of a tunnel with this value of the switch. -/
def switchedProperties (switch : Value) : Properties :=
  [("ssh_tunnel_enabled", .bool true), ("ssh_host", .text "gate"), ("ssh_user", .text "ada"),
    ("ssh_private_key_file", .text "keys/id"), ("ssh_strict_host_key_checking", switch),
    ("target_host", .text "db"), ("target_port", .int 7687)]

/-- What these properties describe if the switch turns verification off. -/
def looseConfig : Config :=
  { host := "gate", port := 22, user := "ada", keyFile := "keys/id", knownHostsFile := none,
    verifiesHost := false, targetHost := "db", targetPort := 7687, passphrase := .null,
    enabled := true }

/-- A switch that says no in capitals turns verification off. -/
theorem verification_off_trial :
    ofProperties (switchedProperties (.text " Off ")) = .ok looseConfig ∧
      looseConfig.enabled = true ∧
      (looseConfig.verifiesHost = false ↔
        (Value.text " Off ").SaysNo ∨ (Value.text " Off ").IsUnclear) ∧
      ∀ policy : TrustPolicy, ∀ machine,
        (run (policy.resolve looseConfig) machine).1 = .ok .disabled ↔
          (Value.text " Off ").SaysNo ∨ (Value.text " Off ").IsUnclear :=
  have hread : ofProperties (switchedProperties (.text " Off ")) = .ok looseConfig := by rfl
  ⟨hread, rfl, verification_off_iff hread rfl⟩

/-- A word that is spelt wrong means neither yes nor no, and turns verification off. -/
theorem misspelt_yes_turns_off :
    ofProperties (switchedProperties (.text "ture")) = .ok looseConfig ∧
      looseConfig.enabled = true ∧
      looseConfig.verifiesHost = false ∧ ¬(Value.text "ture").SaysNo ∧
      ∀ policy : TrustPolicy, ∀ machine,
        (run (policy.resolve looseConfig) machine).1 = .ok .disabled := by
  refine ⟨by rfl, rfl, rfl, ?_, fun policy machine => TrustPolicy.resolve_eq_disabled_iff.2 rfl⟩
  rintro (_ | _ | _ | hno)
  revert hno
  decide

end Config

end SecureForward
