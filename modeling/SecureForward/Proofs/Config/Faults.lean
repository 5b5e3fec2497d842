import SecureForward.Proofs.Config.Properties

/-!
# What can be wrong with properties

Properties that describe no configuration are refused in words that blame the address or a property.
What is not worded like that is listed by `Astray`: a port with too many digits behind the host, an
infinite target port, and whole numbers that cannot be written where a text is asked for.
`answered_ofProperties` says that there is nothing else, and that each of these comes about.
-/

namespace SecureForward

/-- A fault is a refusal that blames the address, or the value of a property. -/
def Fault.RefusesProperty (fault : Fault) : Prop :=
  fault.label? = some (.configuration, "invalid-endpoint") ∨
    fault.label? = some (.configuration, "invalid-property")

/-- A fault that is no refusal at all blames nothing. -/
theorem Fault.not_refusesProperty {fault : Fault} (h : fault.label? = none) :
    ¬fault.RefusesProperty := by
  unfold RefusesProperty
  rw [h]
  rintro (hlabel | hlabel)
  · cases hlabel
  · cases hlabel

namespace Decimal.Binary64

open Float.Model in
/-- A double is infinite if all bits of the exponent are set and none behind them. -/
theorem isInf_iff_bits {x : Float} :
    x.isInf = true ↔ x.toBits.toNat / leadingBit % 2048 = 2047 ∧
      x.toBits.toNat % leadingBit = 0 := by
  have hunpack : x.isInf = true ↔
      @UnpackedFloat.unpackExponent Format.binary64 x.toBits.toBitVec = -1#11 ∧
        @UnpackedFloat.unpackMantissa Format.binary64 x.toBits.toBitVec = 0#52 := by
    change (UnpackedFloat.unpack Format.binary64 x.toBits.toBitVec).isInf = true ↔ _
    unfold UnpackedFloat.unpack
    dsimp only
    by_cases hexponent : @UnpackedFloat.unpackExponent Format.binary64 x.toBits.toBitVec = -1#11
    · rw [if_pos hexponent]
      by_cases hmantissa : @UnpackedFloat.unpackMantissa Format.binary64 x.toBits.toBitVec = 0#52
      · rw [if_pos hmantissa]
        exact iff_of_true rfl ⟨hexponent, hmantissa⟩
      · rw [if_neg hmantissa]
        exact iff_of_false nofun fun h => hmantissa h.2
    · rw [if_neg hexponent]
      refine iff_of_false ?_ fun h => hexponent h.1
      by_cases hzero : @UnpackedFloat.unpackExponent Format.binary64 x.toBits.toBitVec = 0#11
      · rw [if_pos hzero]
        by_cases hmantissa : @UnpackedFloat.unpackMantissa Format.binary64 x.toBits.toBitVec = 0#52
        · rw [dif_pos hmantissa]
          exact nofun
        · rw [dif_neg hmantissa]
          exact nofun
      · rw [if_neg hzero]
        exact nofun
  rw [hunpack, ← BitVec.toNat_inj, ← BitVec.toNat_inj]
  unfold UnpackedFloat.unpackExponent UnpackedFloat.unpackMantissa
  rw [BitVec.toNat_cast, BitVec.toNat_cast, BitVec.extractLsb_toNat, BitVec.extractLsb_toNat,
    Nat.shiftRight_eq_div_pow, Nat.shiftRight_zero]
  exact Iff.rfl

/-- A double is infinite exactly if it stands for an infinity. -/
theorem isInf_iff {x : Float} : x.isInf = true ↔ ∃ negative, ofFloat x = .infinite negative := by
  rw [isInf_iff_bits]
  unfold ofFloat ofBits
  dsimp only
  split_ifs <;> simp_all

/-- An infinite double is not zero. -/
theorem bne_zero_of_isInf {x : Float} (h : x.isInf = true) : (x != 0) = true := by
  change (!x.toModel.unpack.beq (0 : Float).toModel.unpack) = true
  have hinf : x.toModel.unpack.isInf = true := h
  cases hx : x.toModel.unpack with
  | infinity sign => cases sign <;> rfl
  | notANumber => rw [hx] at hinf; cases hinf
  | zero sign => rw [hx] at hinf; cases hinf
  | finite => rw [hx] at hinf; cases hinf

end Decimal.Binary64

namespace Config

variable {properties : Properties} {value : Value} {fault : Fault}

/-! ## Checks of one value -/

/-- A value fails the check if a whole number in it cannot be written. -/
theorem checkWritable_eq_error_iff :
    value.checkWritable = .error fault ↔
      value.isWritable = false ∧ fault = .integer .unwritable := by
  unfold Value.checkWritable
  cases value.isWritable with
  | true => simp
  | false => simp [eq_comm]

/-- A value is no target port for a reason that is not worded as a refusal: it is infinite, or a
collection that cannot be shown. -/
inductive StrayPort : Value → Fault → Prop where
  /-- The double is infinite. -/
  | infinite {x : Float} (h : x.isInf = true) : StrayPort (.float x) .wholePartOfInfinity
  /-- A whole number in the sequence cannot be written. -/
  | list {values : List Value} (h : Value.areWritable values = false) :
    StrayPort (.list values) (.integer .unwritable)
  /-- A whole number among the named values cannot be written. -/
  | map {entries : List (String × Value)} (h : Value.entriesAreWritable entries = false) :
    StrayPort (.map entries) (.integer .unwritable)

/-- Only of an infinite double it is said that infinity has no whole part. -/
theorem of_toInteger_infinity (h : value.toInteger = .error .wholePartOfInfinity) :
    StrayPort value .wholePartOfInfinity := by
  unfold Value.toInteger at h
  cases value with
  | float x =>
    dsimp only at h
    unfold Value.wholePart at h
    split at h
    · cases h
    · rename_i negative hx
      exact .infinite (Decimal.Binary64.isInf_iff.2 ⟨negative, hx⟩)
    · cases h
  | text s =>
    dsimp only at h
    split at h <;> cases h
  | _ => cases h

/-- A value that is read as a target port and fails is refused, or a stray one. -/
theorem of_readTargetPort_error (h : readTargetPort value = .error fault) :
    fault.RefusesProperty ∨ StrayPort value fault := by
  unfold readTargetPort at h
  split_ifs at h
  split at h
  · cases h
  · rename_i hread
    obtain rfl := Except.error.inj h
    exact .inr (of_toInteger_infinity hread)
  · rename_i e _ hread
    rcases bind_eq_error_iff.1 h with hcheck | ⟨-, -, hrefused⟩
    · obtain ⟨hvalue, rfl⟩ := checkWritable_eq_error_iff.1 hcheck
      cases value with
      | list values => exact .inr (.list hvalue)
      | map entries => exact .inr (.map hvalue)
      | int n => cases hread
      | _ => cases hvalue
    · obtain rfl := Except.error.inj hrefused
      exact .inl (.inr rfl)

/-- A value that cannot be written counts as given. -/
theorem isGiven_of_not_isWritable (h : value.isWritable = false) : value.isGiven = true := by
  cases value with
  | int n =>
    by_cases hn : n = 0
    · subst hn
      cases h
    · simpa [Value.isGiven] using hn
  | list values =>
    cases values with
    | nil => cases h
    | cons => rfl
  | map entries =>
    cases entries with
    | nil => cases h
    | cons => rfl
  | _ => cases h

/-- A value that is neither a number nor can be shown is not read as a target port, and not
refused. -/
theorem readTargetPort_of_notNumeric {sort : String}
    (hread : value.toInteger = .error (.notNumeric sort))
    (h : value.isWritable = false) : readTargetPort value = .error (.integer .unwritable) := by
  have hcheck : value.checkWritable = .error (.integer .unwritable) :=
    checkWritable_eq_error_iff.2 ⟨h, rfl⟩
  unfold readTargetPort
  rw [if_neg (by simp [isGiven_of_not_isWritable h]), hread]
  dsimp only
  rw [hcheck]
  rfl

/-- A stray target port fails to be read. -/
theorem StrayPort.readTargetPort_eq (h : StrayPort value fault) :
    readTargetPort value = .error fault := by
  cases h with
  | @infinite x hx =>
    have hgiven : (Value.float x).isGiven = true := Decimal.Binary64.bne_zero_of_isInf hx
    obtain ⟨negative, hread⟩ := Decimal.Binary64.isInf_iff.1 hx
    have hport : (Value.float x).toInteger = .error .wholePartOfInfinity := by
      change Value.wholePart x = _
      unfold Value.wholePart
      rw [hread]
    unfold readTargetPort
    rw [if_neg (by simp [hgiven]), hport]
  | list hvalues => exact readTargetPort_of_notNumeric rfl hvalues
  | map hentries => exact readTargetPort_of_notNumeric rfl hentries

/-- A stray target port is not refused. -/
theorem StrayPort.not_refusesProperty (h : StrayPort value fault) : ¬fault.RefusesProperty := by
  cases h with
  | infinite => exact Fault.not_refusesProperty rfl
  | list => exact Fault.not_refusesProperty rfl
  | map => exact Fault.not_refusesProperty rfl

/-! ## Checks of properties -/

/-- Properties cannot be read as texts if a whole number in one of them cannot be written. -/
theorem checkTexts_eq_error_iff :
    checkTexts properties = .error fault ↔
      (∃ name ∈ textNames, (properties.value name).isWritable = false) ∧
        fault = .integer .unwritable := by
  unfold checkTexts
  induction textNames with
  | nil => exact iff_of_false nofun (by simp)
  | cons name names ih =>
    rw [List.forM_cons, bind_eq_error_iff, checkWritable_eq_error_iff, ih]
    simp only [checkWritable_eq_ok_iff, List.mem_cons, exists_eq_or_imp]
    cases (properties.value name).isWritable with
    | true => simp
    | false => simp

/-- An address that is not read is refused, unless its port has too many digits. -/
theorem of_readAddress_error (h : readAddress properties = .error fault) :
    fault.RefusesProperty ∨
      ∃ count, Address.HasLongPort (hostText properties) count ∧
        fault = .integer (.tooManyDigits count) := by
  unfold readAddress at h
  cases hparse : Address.parse Address.defaultPort (hostText properties) with
  | ok address =>
    rw [hparse] at h
    cases h
  | error e =>
    rw [hparse] at h
    obtain rfl := Except.error.inj h
    cases e with
    | portTooLong count => exact .inr ⟨count, Address.parse_eq_portTooLong_iff.1 hparse, rfl⟩
    | _ => exact .inl (.inl rfl)

/-- An address with a port of too many digits fails to be read. -/
theorem readAddress_of_hasLongPort {count : Nat}
    (h : Address.HasLongPort (hostText properties) count) :
    readAddress properties = .error (.integer (.tooManyDigits count)) := by
  unfold readAddress
  rw [Address.parse_eq_portTooLong_iff.2 h]
  rfl

/-- A configuration that does not pass the check is refused. -/
theorem refusesProperty_of_checked {candidate : Config} (h : checked candidate = .error fault) :
    fault.RefusesProperty := by
  unfold checked at h
  split_ifs at h
  split at h
  · rename_i reason hflaw
    obtain rfl := Except.error.inj h
    refine .inr ?_
    unfold flaw? at hflaw
    split_ifs at hflaw <;> (cases hflaw; rfl)
  · cases h

/-- Properties are read up to the target port: they ask for a tunnel, and the address can be
read. -/
structure ReachesPort (properties : Properties) : Prop where
  /-- A tunnel is asked for. -/
  on : (properties.value "ssh_tunnel_enabled").toSwitch false = true
  /-- The value for the host can be written. -/
  host : (properties.value "ssh_host").isWritable = true
  /-- There is an address in it. -/
  address : ∃ address, Address.parse Address.defaultPort (hostText properties) = .ok address

/-- Properties that ask for a tunnel fail with a fault that is no refusal. -/
inductive Astray (properties : Properties) : Fault → Prop where
  /-- A whole number in the value for the host cannot be written. -/
  | host (on : (properties.value "ssh_tunnel_enabled").toSwitch false = true)
      (number : (properties.value "ssh_host").isWritable = false) :
    Astray properties (.integer .unwritable)
  /-- The port behind the host has too many digits. -/
  | hostPort {count : Nat} (on : (properties.value "ssh_tunnel_enabled").toSwitch false = true)
      (host : (properties.value "ssh_host").isWritable = true)
      (long : Address.HasLongPort (hostText properties) count) :
    Astray properties (.integer (.tooManyDigits count))
  /-- The target port is a stray one. -/
  | targetPort {fault : Fault} (reached : ReachesPort properties)
      (stray : StrayPort (properties.value "target_port") fault) : Astray properties fault
  /-- A whole number in one of the values that are read as texts cannot be written. -/
  | text {targetPort : Int} {name : String} (reached : ReachesPort properties)
      (port : readTargetPort (properties.value "target_port") = .ok targetPort)
      (mem : name ∈ textNames) (number : (properties.value name).isWritable = false) :
    Astray properties (.integer .unwritable)

/-- Where properties are read up to the target port, the rest of the reading follows. -/
theorem ReachesPort.ofProperties_eq (h : ReachesPort properties) :
    ∃ address, ofProperties properties = (do
      let targetPort ← readTargetPort (properties.value "target_port")
      checkTexts properties
      checked (described properties address targetPort)) := by
  obtain ⟨address, haddress⟩ := h.address
  refine ⟨address, ?_⟩
  have hcheck : (properties.value "ssh_host").checkWritable = .ok () :=
    checkWritable_eq_ok_iff.2 h.host
  rw [ofProperties_of_on h.on, hcheck, readAddress_eq_ok_iff.2 haddress]
  rfl

/-- Properties that fail are refused or go astray. -/
theorem of_ofProperties_error (h : ofProperties properties = .error fault) :
    fault.RefusesProperty ∨ Astray properties fault := by
  cases hon : (properties.value "ssh_tunnel_enabled").toSwitch false with
  | false =>
    rw [ofProperties_of_off hon] at h
    cases h
  | true =>
    rw [ofProperties_of_on hon] at h
    -- The checks come in a row, and each one that is passed is part of what a later fault says.
    rcases bind_eq_error_iff.1 h with hhost | ⟨_, hhost, h⟩
    · obtain ⟨hnumber, rfl⟩ := checkWritable_eq_error_iff.1 hhost
      exact .inr (.host hon hnumber)
    have hwritable := checkWritable_eq_ok_iff.1 hhost
    rcases bind_eq_error_iff.1 h with haddress | ⟨address, haddress, h⟩
    · rcases of_readAddress_error haddress with hrefused | ⟨count, hlong, rfl⟩
      · exact .inl hrefused
      · exact .inr (.hostPort hon hwritable hlong)
    have hreached : ReachesPort properties :=
      ⟨hon, hwritable, address, readAddress_eq_ok_iff.1 haddress⟩
    rcases bind_eq_error_iff.1 h with hport | ⟨targetPort, hport, h⟩
    · exact (of_readTargetPort_error hport).imp_right (.targetPort hreached)
    rcases bind_eq_error_iff.1 h with htexts | ⟨-, -, h⟩
    · obtain ⟨⟨name, hmem, hnumber⟩, rfl⟩ := checkTexts_eq_error_iff.1 htexts
      exact .inr (.text hreached hport hmem hnumber)
    · exact .inl (refusesProperty_of_checked h)

/-- Properties that go astray fail with the fault that they go astray with. -/
theorem Astray.ofProperties_eq (h : Astray properties fault) :
    ofProperties properties = .error fault := by
  cases h with
  | host hon hnumber =>
    rw [ofProperties_of_on hon]
    exact bind_eq_error_iff.2 (.inl (checkWritable_eq_error_iff.2 ⟨hnumber, rfl⟩))
  | hostPort hon hhost hlong =>
    have hcheck : (properties.value "ssh_host").checkWritable = .ok () :=
      checkWritable_eq_ok_iff.2 hhost
    rw [ofProperties_of_on hon, hcheck, readAddress_of_hasLongPort hlong]
    rfl
  | targetPort hreached hstray =>
    obtain ⟨address, heq⟩ := hreached.ofProperties_eq
    rw [heq, hstray.readTargetPort_eq]
    rfl
  | text hreached hport hmem hnumber =>
    obtain ⟨address, heq⟩ := hreached.ofProperties_eq
    rw [heq, hport, checkTexts_eq_error_iff.2 ⟨⟨_, hmem, hnumber⟩, rfl⟩]
    rfl

/-- What properties go astray with is no refusal. -/
theorem Astray.not_refusesProperty (h : Astray properties fault) : ¬fault.RefusesProperty := by
  cases h with
  | targetPort _ hstray => exact hstray.not_refusesProperty
  | _ => exact Fault.not_refusesProperty rfl

/-- Properties describe a configuration or are refused in words that blame one of them, except where
they go astray; there they fail with a fault that is no such refusal. -/
theorem answered_ofProperties (properties : Properties) :
    ((∃ config, ofProperties properties = .ok config) ∨
      ∃ fault, ofProperties properties = .error fault ∧
        (fault.RefusesProperty ∨ Astray properties fault)) ∧
      ∀ fault, Astray properties fault →
        ofProperties properties = .error fault ∧ ¬fault.RefusesProperty := by
  constructor
  · cases h : ofProperties properties with
    | ok config => exact .inl ⟨config, rfl⟩
    | error fault => exact .inr ⟨fault, rfl, of_ofProperties_error h⟩
  · intro fault h
    exact ⟨h.ofProperties_eq, h.not_refusesProperty⟩

/-- Properties of a tunnel whose target port is infinite. -/
def endlessProperties : Properties :=
  [("ssh_tunnel_enabled", .bool true), ("ssh_host", .text "gate"), ("ssh_user", .text "ada"),
    ("ssh_private_key_file", .text "keys/id"), ("target_host", .text "db"),
    ("target_port", .float (1.0 / 0.0))]

/-- An infinite target port is not refused as a property that is wrong. -/
theorem endless_port_strays :
    ofProperties endlessProperties = .error .wholePartOfInfinity ∧
      ¬Fault.RefusesProperty .wholePartOfInfinity :=
  ⟨by rfl, Fault.not_refusesProperty rfl⟩

end Config

end SecureForward
