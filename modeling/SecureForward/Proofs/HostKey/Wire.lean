import SecureForward.HostKey.Wire

/-!
# Reading fields back

A number is read back from its bytes (`natOfBytes_bigEndian`, `integer_positiveBytes`), and a field
from a sequence of fields (`takeField_append`), as long as four bytes hold its length. They hold
that of every field that was read, and of the number in it (`length_positiveBytes_le`).
-/

namespace SecureForward

namespace Digest

open SecureForward.Text.Utf8 (Bytes)

/-- The most significant byte comes first. -/
theorem bigEndian_succ (count n : Nat) :
    bigEndian (count + 1) n = .ofNat (n >>> (8 * count) % 256) :: bigEndian count n := by
  unfold bigEndian
  rw [List.range_succ_eq_map, List.map_cons, List.map_map]
  congr 1
  refine List.map_congr_left fun i _ => ?_
  have hindex : count + 1 - 1 - (i + 1) = count - 1 - i := by omega
  rw [Function.comp_apply, Nat.succ_eq_add_one, hindex]

/-- There are as many bytes as were asked for. -/
@[simp]
theorem length_bigEndian (count n : Nat) : (bigEndian count n).length = count := by
  simp [bigEndian]

/-- Bytes that follow a number weigh less than it. -/
theorem foldl_natOfBytes (bytes : Bytes) (start : Nat) :
    bytes.foldl (fun n b => n * 256 + b.toNat) start =
      start * Nat.pow 256 bytes.length + natOfBytes bytes := by
  unfold natOfBytes
  induction bytes generalizing start with
  | nil => simp
  | cons b bytes ih =>
    rw [List.foldl_cons, ih, List.foldl_cons, ih (0 * 256 + b.toNat), List.length_cons, Nat.pow_eq,
      Nat.pow_eq, Nat.pow_succ]
    grind

/-- The first byte is the most significant one. -/
theorem natOfBytes_cons (b : UInt8) (bytes : Bytes) :
    natOfBytes (b :: bytes) = b.toNat * Nat.pow 256 bytes.length + natOfBytes bytes := by
  rw [natOfBytes, List.foldl_cons, foldl_natOfBytes]
  simp

/-- Bytes denote a number that fits into them. -/
theorem natOfBytes_lt (bytes : Bytes) : natOfBytes bytes < Nat.pow 256 bytes.length := by
  rw [Nat.pow_eq]
  induction bytes with
  | nil => decide
  | cons b bytes ih =>
    have hbyte : b.toNat < 256 := b.toNat_lt
    have hhigh : (b.toNat + 1) * 256 ^ bytes.length ≤ 256 * 256 ^ bytes.length :=
      Nat.mul_le_mul_right _ hbyte
    rw [natOfBytes_cons, Nat.pow_eq, List.length_cons, Nat.pow_succ,
      Nat.mul_comm (256 ^ bytes.length)]
    rw [Nat.succ_mul] at hhigh
    omega

/-- The low bytes of a number are read back. -/
theorem natOfBytes_bigEndian (count n : Nat) :
    natOfBytes (bigEndian count n) = n % Nat.pow 256 count := by
  rw [Nat.pow_eq]
  induction count with
  | zero => simp [bigEndian, natOfBytes, Nat.mod_one]
  | succ count ih =>
    have hbyte : (UInt8.ofNat (n >>> (8 * count) % 256)).toNat = n / 256 ^ count % 256 := by
      rw [UInt8.toNat_ofNat', Nat.shiftRight_eq_div_pow, Nat.pow_mul, Nat.mod_mod]
    rw [bigEndian_succ, natOfBytes_cons, hbyte, length_bigEndian, ih, Nat.pow_eq, Nat.pow_succ,
      Nat.mod_mul]
    grind

end Digest

namespace Wire

open Digest (bigEndian natOfBytes length_bigEndian natOfBytes_bigEndian natOfBytes_cons
  natOfBytes_lt)
open SecureForward.Text.Utf8 (Bytes)

/-- As many bytes as were put in front are taken. -/
theorem take_append (bytes rest : Bytes) : take bytes.length (bytes ++ rest) = (bytes, rest) := by
  unfold take
  split <;> simp

/-- A field is read back, with what follows it. -/
theorem takeField_append {bytes : Bytes} (h : bytes.length < 0x100000000) (rest : Bytes) :
    takeField (field bytes ++ rest) = (bytes, rest) := by
  have hsize : take 4 (field bytes ++ rest) = (bigEndian 4 bytes.length, bytes ++ rest) := by
    have htake := take_append (bigEndian 4 bytes.length) (bytes ++ rest)
    rw [length_bigEndian] at htake
    rw [field, List.append_assoc, htake]
  unfold takeField
  rw [hsize]
  dsimp only
  rw [natOfBytes_bigEndian, Nat.mod_eq_of_lt (show bytes.length < Nat.pow 256 4 from h),
    take_append]

/-- A number fits into the bytes that are written for it. -/
theorem lt_pow_natBytes (n : Nat) : n < Nat.pow 256 ((n.log2 + 8) / 8) := by
  have hbits : n.log2 + 1 ≤ 8 * ((n.log2 + 8) / 8) := by omega
  calc
    n < 2 ^ (n.log2 + 1) := Nat.lt_log2_self
    _ ≤ 2 ^ (8 * ((n.log2 + 8) / 8)) := Nat.pow_le_pow_right (by omega) hbits
    _ = Nat.pow 256 ((n.log2 + 8) / 8) := by rw [Nat.pow_mul]; rfl

/-- A number is read back from its bytes without leading zeros. -/
theorem natOfBytes_natBytes (n : Nat) : natOfBytes (natBytes n) = n := by
  rw [natBytes, natOfBytes_bigEndian, Nat.mod_eq_of_lt (lt_pow_natBytes n)]

/-- A number is read back from its bytes in two's complement. -/
theorem integer_positiveBytes (n : Nat) : integer (positiveBytes n) = n := by
  have hback := natOfBytes_natBytes n
  unfold positiveBytes
  generalize natBytes n = bytes at hback
  cases bytes with
  | nil => rw [← hback]; rfl
  | cons b bytes =>
    dsimp only
    by_cases hb : (0x80 : UInt8) ≤ b
    · -- The leading zero keeps the first bit from being read as a sign.
      rw [if_pos hb, integer, if_neg (by decide), natOfBytes_cons, hback]
      simp
    · rw [if_neg hb, integer, if_neg hb, hback]

/-- No more is taken than was asked for. -/
theorem length_take_le (count : Nat) (bytes : Bytes) : (take count bytes).1.length ≤ count := by
  unfold take
  dsimp only
  split
  · rw [List.length_append, List.length_replicate, List.length_take]
    omega
  · rw [List.length_take]
    omega

/-- The length of a field that was read is one that four bytes hold. -/
theorem length_takeField_lt (bytes : Bytes) : (takeField bytes).1.length < 0x100000000 := by
  have hsize := natOfBytes_lt (take 4 bytes).1
  rw [Nat.pow_eq] at hsize
  have hfour : 256 ^ (take 4 bytes).1.length ≤ 256 ^ 4 :=
    Nat.pow_le_pow_right (by decide) (length_take_le 4 bytes)
  have htaken := length_take_le (natOfBytes (take 4 bytes).1) (take 4 bytes).2
  unfold takeField
  dsimp only
  omega

/-- A positive number is written in no more bytes than it was read from. -/
theorem length_positiveBytes_le {bytes : Bytes} {n : Nat} (h : integer bytes = n) (hn : 0 < n) :
    (positiveBytes n).length ≤ bytes.length := by
  cases bytes with
  | nil =>
    rw [integer] at h
    omega
  | cons b rest =>
    have hlt := natOfBytes_lt (b :: rest)
    rw [Nat.pow_eq] at hlt
    rw [integer] at h
    split at h
    · -- With the first bit set the number would be negative.
      rw [Nat.pow_eq] at h
      omega
    rename_i hsign
    have hbyte : b.toNat < 128 := Nat.lt_of_not_le hsign
    have hvalue : n = b.toNat * 256 ^ rest.length + natOfBytes rest := by
      rw [← Nat.pow_eq, ← natOfBytes_cons]
      omega
    have hrest := natOfBytes_lt rest
    rw [Nat.pow_eq] at hrest
    have hbound : n < 2 ^ (8 * rest.length + 7) := by
      have hhigh : (b.toNat + 1) * 256 ^ rest.length ≤ 128 * 256 ^ rest.length :=
        Nat.mul_le_mul_right _ hbyte
      rw [Nat.succ_mul] at hhigh
      rw [Nat.pow_add, Nat.pow_mul, show (2 : Nat) ^ 8 = 256 from rfl, Nat.mul_comm]
      omega
    have hlog : n.log2 < 8 * rest.length + 7 := (Nat.log2_lt (by omega)).2 hbound
    have hlength : (natBytes n).length = (n.log2 + 8) / 8 := length_bigEndian _ _
    have hback := natOfBytes_natBytes n
    unfold positiveBytes
    rw [List.length_cons]
    generalize natBytes n = digits at hlength hback
    cases digits with
    | nil =>
      rw [List.length_nil] at hlength
      omega
    | cons c digits =>
      dsimp only
      rw [List.length_cons] at hlength
      split
      · -- A leading zero is written only where the number fills the bytes that follow.
        rename_i hfull
        have hc : 128 ≤ c.toNat := hfull
        rw [natOfBytes_cons, Nat.pow_eq] at hback
        have hlow : 128 * 256 ^ digits.length ≤ c.toNat * 256 ^ digits.length :=
          Nat.mul_le_mul_right _ hc
        have hpower : 2 ^ (8 * digits.length + 7) ≤ n := by
          rw [Nat.pow_add, Nat.pow_mul, show (2 : Nat) ^ 8 = 256 from rfl, Nat.mul_comm]
          omega
        have hlog' : 8 * digits.length + 7 ≤ n.log2 := (Nat.le_log2 (by omega)).2 hpower
        rw [List.length_cons, List.length_cons]
        omega
      · rw [List.length_cons]
        omega

end Wire

end SecureForward
