import SecureForward.HostKey.Parser
import SecureForward.Proofs.HostKey.Wire
import SecureForward.Proofs.Text.Utf8

/-!
# Reading host keys back

A key reads back if its own encoding is read as this key. `readsBack_of_fits` shows this of every
key whose numbers are not longer than a field can be; elliptic curve keys never are. So every key
that was read from any encoding reads back (`readsBack_of_ofBytes`), which makes the encoding a key
of keys.
-/

namespace SecureForward.HostKey

open SecureForward.Text.Utf8 (Bytes IsAscii)

/-- The kind of a key. -/
def kind : HostKey → Kind
  | .rsa .. => .rsa
  | .ed25519 .. => .ed25519
  | .ecdsa .. => .ecdsa

/-- The encoding of the key is read as the key. -/
def ReadsBack (key : HostKey) : Prop :=
  ofBytes key.kind key.encode = .ok key

/-- Every number of the key has a length that four bytes hold. -/
def Fits : HostKey → Prop
  | .rsa exponent modulus _ =>
    (Wire.positiveBytes exponent).length < 0x100000000 ∧
      (Wire.positiveBytes modulus).length < 0x100000000
  | _ => True

/-- The type name of a key announces its kind. -/
theorem ofTypeName?_typeName (key : HostKey) : Kind.ofTypeName? key.typeName = some key.kind := by
  cases key with
  | rsa => rfl
  | ed25519 => rfl
  | ecdsa curve => cases curve <;> rfl

/-- Keys that read back are the same if their types and their encodings are. -/
theorem ReadsBack.eq_of_encode_eq {key other : HostKey} (h : key.ReadsBack) (h' : other.ReadsBack)
    (htype : key.typeName = other.typeName) (hencode : key.encode = other.encode) :
    key = other := by
  have hkind : key.kind = other.kind := by
    have hname := ofTypeName?_typeName key
    rw [htype, ofTypeName?_typeName other] at hname
    exact (Option.some.inj hname).symm
  unfold ReadsBack at h h'
  rw [hkind, hencode, h'] at h
  exact (Except.ok.inj h).symm

/-- Every key has an encoding. -/
theorem encode_ne_nil (key : HostKey) : key.encode ≠ [] := by
  have hfield (bytes : Bytes) : Wire.field bytes ≠ [] := by
    intro h
    have hlength := congrArg List.length h
    simp [Wire.field] at hlength
  cases key with
  | rsa => simp [encode, hfield]
  | ed25519 => simp [encode, hfield]
  | ecdsa => simp [encode, hfield]

/-- A short name of ASCII is read back from its field. -/
theorem takeText_append {name : String} (hname : IsAscii name.toList)
    (hlength : (textBytes name).length < 0x100000000) (rest : Bytes) :
    takeText (Wire.field (textBytes name) ++ rest) = .ok (name, rest) := by
  unfold takeText
  rw [Wire.takeField_append hlength]
  have hdecode : Text.Utf8.decode (textBytes name) = .ok name.toList :=
    Text.Utf8.decodeFrom_encode hname 0
  dsimp only
  rw [hdecode]
  dsimp only
  rw [String.ofList_toList]

/-- The type name at the head of an encoding is read back. -/
theorem takeHead_append {kind : Kind} {name : String} (hmem : kind.accepted.contains name = true)
    (hname : IsAscii name.toList) (hlength : (textBytes name).length < 0x100000000) (rest : Bytes) :
    takeHead kind (Wire.field (textBytes name) ++ rest) = .ok (name, rest) := by
  unfold takeHead
  rw [takeText_append hname hlength]
  change (if kind.accepted.contains name = true then _ else _) = _
  rw [if_pos hmem]
  rfl

/-- Positive numbers that make an RSA key make this one. -/
theorem ofNumbers_of_valid {exponent modulus : Nat}
    (valid : 3 ≤ modulus ∧ 3 ≤ exponent ∧ exponent < modulus ∧ exponent % 2 = 1) :
    ofNumbers exponent modulus = .ok (.rsa exponent modulus valid) := by
  obtain ⟨hmodulus, hexponent, hless, hodd⟩ := valid
  unfold ofNumbers
  rw [if_neg (by simp)]
  dsimp only [Int.toNat_natCast]
  rw [dif_neg (by omega), dif_neg (by omega), dif_neg (by omega)]

/-- The numbers of an RSA key are those that made it. -/
theorem numbers_of_ofNumbers {exponent modulus : Int} {e n : Nat}
    {valid : 3 ≤ n ∧ 3 ≤ e ∧ e < n ∧ e % 2 = 1}
    (h : ofNumbers exponent modulus = .ok (.rsa e n valid)) : exponent = e ∧ modulus = n := by
  unfold ofNumbers at h
  split at h
  · cases h
  rename_i hsign
  have hpositive : 0 ≤ exponent ∧ 0 ≤ modulus := by simpa using hsign
  dsimp only at h
  split at h
  · cases h
  split at h
  · cases h
  split at h
  · cases h
  injection h with h
  injection h with hexponent hmodulus
  omega

/-- The fields of an elliptic curve key make no RSA key. -/
theorem ofPointFields_ne_rsa (name : String) (bytes : Bytes) {e n : Nat}
    {valid : 3 ≤ n ∧ 3 ≤ e ∧ e < n ∧ e % 2 = 1} :
    ofPointFields name bytes ≠ .ok (.rsa e n valid) := by
  intro h
  unfold ofPointFields at h
  rcases htext : takeText bytes with fault | ⟨found, rest⟩
  · rw [htext] at h
    cases h
  rw [htext] at h
  dsimp only [Bind.bind, Except.bind] at h
  split at h
  · cases h
  split at h
  · cases h
  split at h <;> cases h

/-- The coordinates of a point are read back. -/
theorem point?_of_contains {curve : Curve} {x y : Nat} (valid : curve.Contains x y) :
    point? curve (0x04 :: (Digest.bigEndian curve.size x ++ Digest.bigEndian curve.size y)) =
      some (x, y) := by
  have hprime : curve.prime < Nat.pow 256 curve.size := by cases curve <;> decide +kernel
  obtain ⟨hx, hy, -⟩ := valid
  unfold point?
  dsimp only
  rw [if_pos rfl, if_pos (by simp; omega)]
  rw [List.take_left' (by simp), List.drop_left' (by simp), Digest.natOfBytes_bigEndian,
    Digest.natOfBytes_bigEndian, Nat.mod_eq_of_lt (by omega), Nat.mod_eq_of_lt (by omega)]

/-- The fields of an elliptic curve key are read back. -/
theorem ofPointFields_of_contains {curve : Curve} {x y : Nat} (valid : curve.Contains x y) :
    ofPointFields (ecdsaTypeName curve) (Wire.field (textBytes curve.name) ++ Wire.field
      (0x04 :: (Digest.bigEndian curve.size x ++ Digest.bigEndian curve.size y))) =
        .ok (.ecdsa curve x y valid) := by
  have hname : IsAscii curve.name.toList := by
    cases curve <;> exact Text.Utf8.isAscii_of_all (by decide)
  have hlength : (textBytes curve.name).length < 0x100000000 := by cases curve <;> decide
  have hcurve : (Curve.all.find? fun c => ecdsaTypeName c == ecdsaTypeName curve &&
      c.name == curve.name) = some curve := by
    cases curve <;> decide
  have hsize : (0x04 :: (Digest.bigEndian curve.size x ++ Digest.bigEndian curve.size y)).length <
      0x100000000 := by
    rw [List.length_cons, List.length_append, Digest.length_bigEndian, Digest.length_bigEndian]
    cases curve <;> decide
  have hpoint := Wire.takeField_append hsize []
  rw [List.append_nil] at hpoint
  -- The curve is the one that both names stand for, and the point is on it.
  unfold ofPointFields
  rw [takeText_append hname hlength]
  dsimp only [Bind.bind, Except.bind]
  rw [hcurve]
  dsimp only
  rw [hpoint]
  dsimp only
  rw [point?_of_contains valid]
  dsimp only
  rw [dif_pos valid]
  rfl

section

variable {bytes rest : Bytes} {name : String}

/-- Behind the head of an RSA key stand its numbers. -/
theorem ofBytes_rsa {exponent modulus after after' : Bytes}
    (hhead : takeHead .rsa bytes = .ok (name, rest))
    (hexponent : Wire.takeField rest = (exponent, after))
    (hmodulus : Wire.takeField after = (modulus, after')) :
    ofBytes .rsa bytes = ofNumbers (Wire.integer exponent) (Wire.integer modulus) := by
  rw [ofBytes, hhead]
  change ofNumbers (Wire.integer (Wire.takeField rest).1)
    (Wire.integer (Wire.takeField (Wire.takeField rest).2).1) = _
  rw [hexponent, hmodulus]

/-- Behind the head of an Edwards curve key stand its bytes. -/
theorem ofBytes_ed25519 {key after : Bytes} (hhead : takeHead .ed25519 bytes = .ok (name, rest))
    (hkey : Wire.takeField rest = (key, after)) (valid : key.length = 32) :
    ofBytes .ed25519 bytes = .ok (.ed25519 key valid) := by
  rw [ofBytes, hhead]
  change (if valid : (Wire.takeField rest).1.length = 32 then
    Except.ok (ed25519 (Wire.takeField rest).1 valid) else throw Error.wrongSize) = _
  generalize Wire.takeField rest = taken at hkey ⊢
  subst hkey
  exact dif_pos valid

/-- Behind the head of an elliptic curve key stand the curve and the point. -/
theorem ofBytes_ecdsa (hhead : takeHead .ecdsa bytes = .ok (name, rest)) :
    ofBytes .ecdsa bytes = ofPointFields name rest := by
  rw [ofBytes, hhead]
  rfl

end

/-- A key whose numbers fit into their fields is read back. -/
theorem readsBack_of_fits {key : HostKey} (h : key.Fits) : key.ReadsBack := by
  cases key with
  | rsa exponent modulus valid =>
    obtain ⟨hexponent, hmodulus⟩ := h
    have hhead := takeHead_append (show Kind.rsa.accepted.contains "ssh-rsa" = true by decide)
      (Text.Utf8.isAscii_of_all (by decide)) (by decide)
      (Wire.field (Wire.positiveBytes exponent) ++ Wire.field (Wire.positiveBytes modulus))
    have hlast := Wire.takeField_append hmodulus []
    rw [List.append_nil] at hlast
    rw [← List.append_assoc] at hhead
    have hread := ofBytes_rsa hhead (Wire.takeField_append hexponent _) hlast
    rw [Wire.integer_positiveBytes, Wire.integer_positiveBytes, ofNumbers_of_valid valid] at hread
    exact hread
  | ed25519 bytes valid =>
    have hhead :=
      takeHead_append (show Kind.ed25519.accepted.contains "ssh-ed25519" = true by decide)
      (Text.Utf8.isAscii_of_all (by decide)) (by decide) (Wire.field bytes)
    have hlast := Wire.takeField_append (show bytes.length < 0x100000000 by omega) []
    rw [List.append_nil] at hlast
    exact ofBytes_ed25519 hhead hlast valid
  | ecdsa curve x y valid =>
    have hhead := takeHead_append
      (show Kind.ecdsa.accepted.contains (ecdsaTypeName curve) = true by cases curve <;> decide)
      (Text.Utf8.isAscii_of_all (by cases curve <;> decide)) (by cases curve <;> decide)
      (Wire.field (textBytes curve.name) ++ Wire.field
        (0x04 :: (Digest.bigEndian curve.size x ++ Digest.bigEndian curve.size y)))
    rw [← List.append_assoc] at hhead
    have hread := ofBytes_ecdsa hhead
    rw [ofPointFields_of_contains valid] at hread
    exact hread

/-- A key that was read from bytes has numbers that fit into their fields. -/
theorem fits_of_ofBytes {kind : Kind} {bytes : Bytes} {key : HostKey}
    (h : ofBytes kind bytes = .ok key) : key.Fits := by
  rcases key with ⟨exponent, modulus, valid⟩ | _ | _
  · rcases hhead : takeHead kind bytes with e | ⟨name, rest⟩
    · rw [ofBytes, hhead] at h
      cases h
    cases kind with
    | rsa =>
      rcases hfield : Wire.takeField rest with ⟨field, after⟩
      rcases hfield' : Wire.takeField after with ⟨field', after'⟩
      rw [ofBytes_rsa hhead hfield hfield'] at h
      obtain ⟨hexponent, hmodulus⟩ := numbers_of_ofNumbers h
      have hlt := Wire.length_takeField_lt rest
      have hlt' := Wire.length_takeField_lt after
      rw [hfield] at hlt
      rw [hfield'] at hlt'
      have hlength := Wire.length_positiveBytes_le hexponent (by omega)
      have hlength' := Wire.length_positiveBytes_le hmodulus (by omega)
      exact ⟨Nat.lt_of_le_of_lt hlength hlt, Nat.lt_of_le_of_lt hlength' hlt'⟩
    | ed25519 =>
      rw [ofBytes, hhead] at h
      change (if valid : (Wire.takeField rest).1.length = 32 then
        Except.ok (ed25519 (Wire.takeField rest).1 valid) else throw Error.wrongSize) = _ at h
      by_cases hsize : (Wire.takeField rest).1.length = 32
      · rw [dif_pos hsize] at h
        cases h
      · rw [dif_neg hsize] at h
        cases h
    | ecdsa =>
      rw [ofBytes_ecdsa hhead] at h
      exact absurd h (ofPointFields_ne_rsa _ _)
  · trivial
  · trivial

/-- A key that was read from any bytes reads back from its own encoding. -/
theorem readsBack_of_ofBytes {kind : Kind} {bytes : Bytes} {key : HostKey}
    (h : ofBytes kind bytes = .ok key) : key.ReadsBack :=
  readsBack_of_fits (fits_of_ofBytes h)

end SecureForward.HostKey
