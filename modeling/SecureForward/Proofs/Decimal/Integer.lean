import SecureForward.Decimal.Integer
import SecureForward.Proofs.Text.Split

/-!
# Whole numbers that were written

A whole number is written with the digits from `0` to `9`, behind a hyphen if it is negative. What
is written is read again as the number that it was, if it does not take too many digits
(`readInteger_toString`).
-/

namespace SecureForward.Decimal

open SecureForward.Text

/-- A digit from `0` to `9`, as numbers are written with. -/
def IsPlainDigit (c : Char) : Prop :=
  48 ≤ c.toNat ∧ c.toNat ≤ 57

/-- Numbers are written with plain digits. -/
theorem isPlainDigit_of_mem_toDigits {n : Nat} {c : Char} (h : c ∈ Nat.toDigits 10 n) :
    IsPlainDigit c := by
  have hdigit : c.isDigit = true := Nat.isDigit_of_mem_toDigits (by omega) (by omega) h
  exact Char.isDigit_iff_toNat.1 hdigit

/-- A plain digit is not blank. -/
theorem IsPlainDigit.isBlank_eq_false {c : Char} (h : IsPlainDigit c) : isBlank c = false := by
  obtain ⟨hlow, hhigh⟩ := h
  exact IsVisible.isBlank_eq_false ⟨by omega, by omega⟩

/-- A plain digit is no white space. -/
theorem IsPlainDigit.isSpace_eq_false {c : Char} (h : IsPlainDigit c) : isSpace c = false :=
  (Bool.or_eq_false_iff.1 h.isBlank_eq_false).1

/-- A plain digit counts as many as it is behind the zero. -/
theorem IsPlainDigit.digitValue?_eq {c : Char} (h : IsPlainDigit c) :
    digitValue? c = some (c.toNat - '0'.toNat) := by
  obtain ⟨hlow, hhigh⟩ := h
  have hfirst :
      zeroCodes.find? (fun origin => origin ≤ c.toNat && c.toNat < origin + 10) = some 48 := by
    refine List.find?_cons_of_pos ?_
    rw [Bool.and_eq_true, decide_eq_true_eq, decide_eq_true_eq]
    omega
  unfold digitValue?
  rw [hfirst]
  rfl

/-- Plain digits are taken one by one, to the end. -/
theorem takeDigits_eq {l : List Char} (h : ∀ c ∈ l, IsPlainDigit c) (fresh : Bool) :
    takeDigits fresh l = some (l.map fun c => c.toNat - '0'.toNat, []) := by
  induction l generalizing fresh with
  | nil => rfl
  | cons c l ih =>
    have hc : IsPlainDigit c := h c List.mem_cons_self
    have hline : c ≠ '_' := by
      rintro rfl
      exact absurd hc.2 (by decide)
    rw [takeDigits, hc.digitValue?_eq, ih fun d hd => h d (List.mem_cons_of_mem _ hd)]
    · rfl
    · exact hline

/-- The digits that a number is written with denote this number. -/
theorem ofDigits_toDigits (n : Nat) :
    ofDigits ((Nat.toDigits 10 n).map fun c => c.toNat - '0'.toNat) = n := by
  unfold ofDigits
  rw [List.foldl_map]
  exact Nat.ofDigitChars_toDigits (by omega) (by omega)

/-- Whether a numeral is negative, and what stands behind its sign. -/
def unsigned : List Char → Bool × List Char
  | '-' :: l => (true, l)
  | '+' :: l => (false, l)
  | l => (false, l)

/-- A numeral that begins with a digit has no sign. -/
theorem unsigned_cons {c : Char} (h : IsPlainDigit c) (l : List Char) :
    unsigned (c :: l) = (false, c :: l) := by
  have hhyphen : c ≠ '-' := by
    rintro rfl
    exact absurd h.1 (by decide)
  have hplus : c ≠ '+' := by
    rintro rfl
    exact absurd h.1 (by decide)
  simp [unsigned, hhyphen, hplus]

/-- What is behind the sign is read as digits. -/
theorem readInteger_eq (text : String) :
    readInteger text =
      match takeDigits true (unsigned (strip isSpace text.toList)).2 with
      | none => .error (.malformed text)
      | some (digits, rest) =>
        if digitLimit < digits.length then .error (.tooManyDigits digits.length)
        else if digits.isEmpty || !rest.isEmpty then .error (.malformed text)
        else if (unsigned (strip isSpace text.toList)).1 then .ok (-(ofDigits digits : Int))
        else .ok (ofDigits digits) :=
  rfl

/-- Digits in which a number is written, behind a hyphen or not, are read as this number or its
negative. -/
theorem readInteger_of_toDigits {text : String} {n : Nat} {negative : Bool}
    (htext : text.toList = (if negative then ['-'] else []) ++ Nat.toDigits 10 n)
    (hwritable : (Nat.toDigits 10 n).length ≤ digitLimit) :
    readInteger text = .ok (if negative then -(n : Int) else n) := by
  have hdigits : ∀ c ∈ Nat.toDigits 10 n, IsPlainDigit c := fun c => isPlainDigit_of_mem_toDigits
  have htake := takeDigits_eq hdigits true
  have hvalue := ofDigits_toDigits n
  obtain ⟨c, l, hl⟩ := List.exists_cons_of_ne_nil (@Nat.toDigits_ne_nil n 10)
  rw [hl] at htext hwritable hdigits htake hvalue
  have hc : IsPlainDigit c := hdigits c List.mem_cons_self
  have hstrip : strip isSpace text.toList = text.toList := by
    rw [htext]
    refine strip_eq_self (fun d hd => ?_) fun d hd => ?_
    · cases negative with
      | true =>
        obtain rfl : '-' = d := by simpa using hd
        decide
      | false =>
        obtain rfl : c = d := by simpa using hd
        exact hc.isSpace_eq_false
    · rw [List.getLast?_append, List.getLast?_eq_some_getLast (List.cons_ne_nil c l),
        Option.some_or] at hd
      obtain rfl := Option.some.inj hd
      exact (hdigits _ (List.getLast_mem _)).isSpace_eq_false
  have hsign : unsigned text.toList = (negative, c :: l) := by
    rw [htext]
    cases negative with
    | true => rfl
    | false => exact unsigned_cons hc l
  rw [readInteger_eq, hstrip, hsign, htake]
  dsimp only
  rw [if_neg (by simpa using hwritable), if_neg (by simp), hvalue]
  cases negative with
  | true => rfl
  | false => rfl

/-- A whole number that does not take too many digits is read back as it was written. -/
theorem readInteger_toString {n : Int} (h : isWritable n = true) :
    readInteger (toString n) = .ok n := by
  have hlength : (Nat.toDigits 10 n.natAbs).length ≤ digitLimit := by
    simpa [isWritable] using h
  cases n with
  | ofNat n =>
    have htext : (toString (Int.ofNat n)).toList = Nat.toDigits 10 n := String.toList_ofList
    exact @readInteger_of_toDigits _ n false htext hlength
  | negSucc n =>
    have htext : (toString (Int.negSucc n)).toList = '-' :: Nat.toDigits 10 (n + 1) := by
      change ("-" ++ Nat.repr (n + 1)).toList = _
      rw [String.toList_append]
      exact congrArg ('-' :: ·) String.toList_ofList
    exact @readInteger_of_toDigits _ (n + 1) true htext hlength

end SecureForward.Decimal
