import SecureForward.Proofs.Text.Utf8
import SecureForward.Text.Lower

/-!
# Lower case

An ASCII text is lower-cased letter by letter (`lower_of_isAscii`). A test of characters that gives
the same answer for a capital and its small letter goes by what `toLower_induction` says. In any
text, lower-casing adds nothing but small letters (`mem_of_mem_lower`).
-/

namespace SecureForward.Text

open Utf8 (IsAscii)

/-- What holds of the characters with the first 128 numbers holds of the ASCII characters. -/
theorem ascii_induction {P : Char → Prop} (h : ∀ n < 0x80, P (Char.ofNat n)) {c : Char}
    (hc : c.toNat < 0x80) : P c := by
  have hchar := h c.toNat hc
  rwa [Char.ofNat_toNat] at hchar

/-- Lower-casing leaves a character alone that is not ASCII. -/
theorem toLower_of_le {c : Char} (h : 0x80 ≤ c.toNat) : c.toLower = c := by
  have hcapital : ¬(c.val ≥ 'A'.val ∧ c.val ≤ 'Z'.val) := by
    rintro ⟨-, hle⟩
    have hle : c.toNat ≤ 90 := hle
    omega
  unfold Char.toLower
  rw [dif_neg hcapital]

/-- What holds of every character and itself, and of every ASCII character and its small letter,
holds of every character and its small letter. -/
theorem toLower_induction {P : Char → Char → Prop} (hself : ∀ c, P c c)
    (hascii : ∀ n < 0x80, P (Char.ofNat n) (Char.ofNat n).toLower) (c : Char) : P c c.toLower := by
  rcases Nat.lt_or_ge c.toNat 0x80 with hlt | hle
  · exact ascii_induction (P := fun c => P c c.toLower) hascii hlt
  · rw [toLower_of_le hle]
    exact hself c

/-- A small letter is its own small letter. -/
@[simp]
theorem toLower_toLower (c : Char) : c.toLower.toLower = c.toLower := by
  rcases Nat.lt_or_ge c.toNat 0x80 with hlt | hle
  · exact ascii_induction (P := fun c => c.toLower.toLower = c.toLower) (by decide) hlt
  · rw [toLower_of_le hle, toLower_of_le hle]

/-- Lower-casing an ASCII text a second time changes nothing. -/
theorem map_toLower_map_toLower (l : List Char) :
    (l.map Char.toLower).map Char.toLower = l.map Char.toLower := by
  rw [List.map_map]
  exact List.map_congr_left fun c _ => toLower_toLower c

/-- The small letter of an ASCII character is ASCII. -/
theorem isAscii_map_toLower {l : List Char} (h : IsAscii l) : IsAscii (l.map Char.toLower) := by
  intro c hc
  obtain ⟨x, hx, rfl⟩ := List.mem_map.1 hc
  exact ascii_induction (P := fun c => c.toLower.toNat < 0x80) (by decide) (h x hx)

/-- Lower-casing neither adds nor removes a character that is no letter. -/
theorem mem_map_toLower_iff {c : Char} (hc : c.isAlpha = false) (l : List Char) :
    c ∈ l.map Char.toLower ↔ c ∈ l := by
  have hsame (x : Char) : x.toLower = c ↔ x = c := by
    rcases Nat.lt_or_ge x.toNat 0x80 with hlt | hle
    · have hx : x.toLower = x ∨ x.isAlpha = true ∧ x.toLower.isAlpha = true :=
        ascii_induction (P := fun c => c.toLower = c ∨ c.isAlpha = true ∧ c.toLower.isAlpha = true)
          (by decide) hlt
      grind
    · rw [toLower_of_le hle]
  rw [List.mem_map]
  constructor
  · rintro ⟨x, hx, hlower⟩
    rwa [(hsame x).1 hlower] at hx
  · intro h
    exact ⟨c, h, (hsame c).2 rfl⟩

/-- The small letter of an ASCII character, where the place in a word does not count. -/
theorem lowerChar_of_lt {c : Char} (h : c.toNat < 0x80) : lowerChar c = [c.toLower] :=
  ascii_induction (P := fun c => lowerChar c = [c.toLower]) (by decide +kernel) h

/-- ASCII text in front is lower-cased letter by letter. -/
theorem lowerAfter_append {a : List Char} (h : IsAscii a) (before b : List Char) :
    lowerAfter before (a ++ b) = a.map Char.toLower ++ lowerAfter (a.reverse ++ before) b := by
  induction a generalizing before with
  | nil => rfl
  | cons c a ih =>
    have hc : c.toNat < 0x80 := h c List.mem_cons_self
    have hsigma : c ≠ '\u03a3' := by
      rintro rfl
      exact absurd hc (by decide)
    rw [List.cons_append, lowerAfter, if_neg hsigma, lowerChar_of_lt hc,
      ih fun x hx => h x (List.mem_cons_of_mem _ hx)]
    simp

/-- An ASCII text is lower-cased letter by letter. -/
theorem lower_of_isAscii {l : List Char} (h : IsAscii l) : lower l = l.map Char.toLower := by
  have happend := lowerAfter_append h [] []
  rw [List.append_nil] at happend
  unfold lower
  rw [happend, lowerAfter, List.append_nil]

/-! ## Characters that are no small letters -/

/-- Whether a code point may be that of a small letter which another character becomes. -/
def mayBeSmall (code : Nat) : Bool :=
  [0, 0x69, 0x307, 0x3c2, 0x3c3].contains code ||
    capitalRuns.any fun (first, last, _, distance) =>
      (first : Int) ≤ code - distance && code - distance ≤ (last : Int)

/-- The character of a code point has this code point, unless there is none. -/
theorem toNat_ofNat (n : Nat) : (Char.ofNat n).toNat = n ∨ (Char.ofNat n).toNat = 0 := by
  unfold Char.ofNat
  by_cases hvalid : n.isValidChar
  · rw [dif_pos hvalid]
    exact .inl rfl
  · rw [dif_neg hvalid]
    exact .inr rfl

/-- A character that is no small letter comes only from itself. -/
theorem eq_of_mem_lowerChar {c x : Char} (h : c ∈ lowerChar x) (hc : mayBeSmall c.toNat = false) :
    c = x := by
  obtain ⟨hspecial, hruns⟩ := Bool.or_eq_false_iff.1 hc
  have hnot {y : Char} (hy : [0, 0x69, 0x307, 0x3c2, 0x3c3].contains y.toNat = true) : c ≠ y := by
    rintro rfl
    rw [hspecial] at hy
    cases hy
  unfold lowerChar at h
  split at h
  · rcases List.mem_cons.1 h with heq | h
    · exact absurd heq (hnot rfl)
    · exact absurd (List.mem_singleton.1 h) (hnot rfl)
  · split at h
    · rename_i first last step distance hfind
      exfalso
      have hmem := List.mem_of_find?_eq_some hfind
      have hrun := List.find?_some hfind
      have hcode := congrArg Char.toNat (List.mem_singleton.1 h)
      rcases toNat_ofNat ((x.toNat : Int) + distance).toNat with hsame | hzero
      · -- The distance leads back into the run.
        rw [hsame] at hcode
        have hout := List.any_eq_false.1 hruns _ hmem
        simp only [Bool.and_eq_true, decide_eq_true_eq] at hrun hout
        have hpositive : c.toNat ≠ 0 := by
          intro hzero
          rw [hzero] at hspecial
          cases hspecial
        refine hout ⟨?_, ?_⟩ <;> omega
      · rw [hzero] at hcode
        rw [hcode] at hspecial
        cases hspecial
    · exact List.mem_singleton.1 h

/-- Lower-casing adds no character that is no small letter. -/
theorem mem_of_mem_lower {l : List Char} {c : Char} (h : c ∈ lower l)
    (hc : mayBeSmall c.toNat = false) :
    c ∈ l := by
  have hafter (l before : List Char) (h : c ∈ lowerAfter before l) : c ∈ l := by
    induction l generalizing before with
    | nil => exact h
    | cons x l ih =>
      unfold lowerAfter at h
      dsimp only at h
      rcases List.mem_append.1 h with hsmall | hrest
      · split at hsmall
        · -- The small letters of sigma are small letters.
          exfalso
          split at hsmall
          · rw [List.mem_singleton.1 hsmall] at hc
            exact absurd hc (by decide)
          · rw [List.mem_singleton.1 hsmall] at hc
            exact absurd hc (by decide)
        · rw [eq_of_mem_lowerChar hsmall hc]
          exact List.mem_cons_self
      · exact List.mem_cons_of_mem _ (ih _ hrest)
  exact hafter l [] h

/-- A character that is its own small letter stays where it is. -/
theorem mem_lower_of_mem {l : List Char} {c : Char} (h : c ∈ l) (hc : lowerChar c = [c]) :
    c ∈ lower l := by
  have hsigma : c ≠ '\u03a3' := by
    rintro rfl
    exact absurd hc (by decide +kernel)
  have hafter (l before : List Char) (h : c ∈ l) : c ∈ lowerAfter before l := by
    induction l generalizing before with
    | nil => cases h
    | cons x l ih =>
      unfold lowerAfter
      rcases List.mem_cons.1 h with rfl | hrest
      · rw [if_neg hsigma, hc]
        exact List.mem_cons_self
      · exact List.mem_append_right _ (ih _ hrest)
  exact hafter l [] h

/-- Every character has a small letter, which may be itself. -/
theorem lowerChar_ne_nil (c : Char) : lowerChar c ≠ [] := by
  unfold lowerChar
  split
  · simp
  · split
    · simp
    · simp

/-- No text becomes empty. -/
theorem lowerAfter_ne_nil {l : List Char} (h : l ≠ []) (before : List Char) :
    lowerAfter before l ≠ [] := by
  obtain ⟨c, rest, rfl⟩ := List.exists_cons_of_ne_nil h
  unfold lowerAfter
  dsimp only
  refine List.append_ne_nil_of_left_ne_nil ?_ _
  split
  · split
    · simp
    · simp
  · exact lowerChar_ne_nil c

end SecureForward.Text
