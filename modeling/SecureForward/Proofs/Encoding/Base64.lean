import SecureForward.Encoding.Base64
import SecureForward.Proofs.Text.Split

/-!
# Base64 round trip

`decode_encode` reads encoded bytes back. What is written consists of visible characters of ASCII,
none of which separates anything where base64 is embedded in other text (`visible_of_mem_encode`).
-/

namespace SecureForward.Base64

open SecureForward.Text (IsVisible)
open SecureForward.Text.Utf8 (Bytes)

/-- The characters for six bits are told apart. -/
theorem sextet?_encodeSextet : ∀ n < 64, sextet? (encodeSextet n) = some n := by
  decide

/-- No six bits are written as padding. -/
theorem encodeSextet_ne_pad : ∀ n < 64, encodeSextet n ≠ '=' := by
  decide

/-- The characters for six bits are visible, and neither bars nor commas. -/
theorem visible_encodeSextet : ∀ n < 64, (0x21 ≤ (encodeSextet n).toNat ∧
    (encodeSextet n).toNat ≤ 0x7e) ∧ encodeSextet n ≠ '|' ∧ encodeSextet n ≠ ',' := by
  decide

/-- What is written is visible, and holds neither bars nor commas. -/
theorem visible_of_mem_encode {bytes : Bytes} {c : Char} (h : c ∈ encode bytes) :
    IsVisible c ∧ c ≠ '|' ∧ c ≠ ',' := by
  have hpad : IsVisible '=' ∧ '=' ≠ '|' ∧ '=' ≠ ',' :=
    ⟨⟨by decide, by decide⟩, by decide, by decide⟩
  fun_induction encode bytes with
  | case1 => cases h
  | case2 a n =>
    have ha := a.toNat_lt
    simp only [List.mem_cons, List.not_mem_nil, or_false] at h
    rcases h with rfl | rfl | rfl | rfl
    · exact visible_encodeSextet _ (by omega)
    · exact visible_encodeSextet _ (by omega)
    · exact hpad
    · exact hpad
  | case3 a b n =>
    have ha := a.toNat_lt
    have hb := b.toNat_lt
    simp only [List.mem_cons, List.not_mem_nil, or_false] at h
    rcases h with rfl | rfl | rfl | rfl
    · exact visible_encodeSextet _ (by omega)
    · exact visible_encodeSextet _ (by omega)
    · exact visible_encodeSextet _ (by omega)
    · exact hpad
  | case4 a b c' rest n ih =>
    have ha := a.toNat_lt
    have hb := b.toNat_lt
    have hc := c'.toNat_lt
    simp only [List.mem_cons] at h
    rcases h with rfl | rfl | rfl | rfl | h
    · exact visible_encodeSextet _ (by omega)
    · exact visible_encodeSextet _ (by omega)
    · exact visible_encodeSextet _ (by omega)
    · exact visible_encodeSextet _ (by omega)
    · exact ih h

/-- Only no bytes are written as nothing. -/
theorem encode_ne_nil {bytes : Bytes} (h : bytes ≠ []) : encode bytes ≠ [] := by
  fun_cases encode bytes with
  | case1 => exact absurd rfl h
  | case2 | case3 | case4 => simp

/-- A group begins with six bits. -/
theorem decodeFrom_start (done : Bytes) {n : Nat} (hn : n < 64) (rest : List Char) :
    decodeFrom done .start (encodeSextet n :: rest) = decodeFrom done (.one n) rest := by
  simp [decodeFrom, encodeSextet_ne_pad n hn, sextet?_encodeSextet n hn]

/-- With twelve bits the first byte of a group is complete. -/
theorem decodeFrom_one (done : Bytes) (bits : Nat) {n : Nat} (hn : n < 64) (rest : List Char) :
    decodeFrom done (.one bits) (encodeSextet n :: rest) =
      decodeFrom (.ofNat (bits * 4 + n / 16) :: done) (.two (n % 16) 0) rest := by
  simp [decodeFrom, encodeSextet_ne_pad n hn, sextet?_encodeSextet n hn]

/-- With eighteen bits the second byte of a group is complete. -/
theorem decodeFrom_two (done : Bytes) (bits pads : Nat) {n : Nat} (hn : n < 64)
    (rest : List Char) :
    decodeFrom done (.two bits pads) (encodeSextet n :: rest) =
      decodeFrom (.ofNat (bits * 16 + n / 4) :: done) (.three (n % 4)) rest := by
  simp [decodeFrom, encodeSextet_ne_pad n hn, sextet?_encodeSextet n hn]

/-- With twenty-four bits the whole group is complete. -/
theorem decodeFrom_three (done : Bytes) (bits : Nat) {n : Nat} (hn : n < 64) (rest : List Char) :
    decodeFrom done (.three bits) (encodeSextet n :: rest) =
      decodeFrom (.ofNat (bits * 64 + n) :: done) .start rest := by
  simp [decodeFrom, encodeSextet_ne_pad n hn, sextet?_encodeSextet n hn]

/-- A number that is the value of a byte denotes that byte. -/
theorem ofNat_eq_of_toNat {n : Nat} {b : UInt8} (h : n = b.toNat) : UInt8.ofNat n = b := by
  rw [h]
  exact UInt8.ofNat_toNat

/-- Encoded bytes are read back behind those that were read before. -/
theorem decodeFrom_encode (done bytes : Bytes) :
    decodeFrom done .start (encode bytes) = .ok (done.reverse ++ bytes) := by
  fun_induction encode bytes generalizing done with
  | case1 => simp [decodeFrom]
  | case2 a n =>
    have ha := a.toNat_lt
    have hfirst : UInt8.ofNat (n / 64 * 4 + n % 64 / 16) = a := ofNat_eq_of_toNat (by omega)
    rw [decodeFrom_start _ (by omega), decodeFrom_one _ _ (by omega), hfirst]
    simp [decodeFrom]
  | case3 a b n =>
    have ha := a.toNat_lt
    have hb := b.toNat_lt
    have hfirst : UInt8.ofNat (n / 4096 * 4 + n / 64 % 64 / 16) = a :=
      ofNat_eq_of_toNat (by omega)
    have hsecond : UInt8.ofNat (n / 64 % 64 % 16 * 16 + n % 64 / 4) = b :=
      ofNat_eq_of_toNat (by omega)
    rw [decodeFrom_start _ (by omega), decodeFrom_one _ _ (by omega), hfirst,
      decodeFrom_two _ _ _ (by omega), hsecond]
    simp [decodeFrom]
  | case4 a b c rest n ih =>
    have ha := a.toNat_lt
    have hb := b.toNat_lt
    have hc := c.toNat_lt
    have hfirst : UInt8.ofNat (n / 262144 * 4 + n / 4096 % 64 / 16) = a :=
      ofNat_eq_of_toNat (by omega)
    have hsecond : UInt8.ofNat (n / 4096 % 64 % 16 * 16 + n / 64 % 64 / 4) = b :=
      ofNat_eq_of_toNat (by omega)
    have hthird : UInt8.ofNat (n / 64 % 64 % 4 * 64 + n % 64) = c := ofNat_eq_of_toNat (by omega)
    rw [decodeFrom_start _ (by omega), decodeFrom_one _ _ (by omega), hfirst,
      decodeFrom_two _ _ _ (by omega), hsecond, decodeFrom_three _ _ (by omega), hthird, ih]
    simp

/-- Encoded bytes are read back. -/
theorem decode_encode (bytes : Bytes) : decode (encode bytes) = .ok bytes :=
  decodeFrom_encode [] bytes

end SecureForward.Base64
