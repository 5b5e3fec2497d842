/-!
# Cutting text

Text is handled as a list of characters wherever it is taken apart. `cut` and `cutLast` divide it
at one occurrence of a character, `split` at every character of a class. Nothing is lost by a cut:
`cut_eq_some_iff` and `cut_eq_none_iff` say what the two parts are.
-/

namespace SecureForward.Text

/-- The characters before the first `c`, and those after it if `c` occurs at all. -/
def cut (c : Char) : List Char → List Char × Option (List Char)
  | [] => ([], none)
  | x :: l =>
    if x = c then ([], some l)
    else
      let parts := cut c l
      (x :: parts.1, parts.2)

/-- The characters before the last `c`, if `c` occurs at all, and those after it. -/
def cutLast (c : Char) (l : List Char) : Option (List Char) × List Char :=
  let parts := cut c l.reverse
  (parts.2.map List.reverse, parts.1.reverse)

/-- The fields between the characters of class `p`; there is one field more than there are such
characters, so an empty text has one empty field. -/
def split (p : Char → Bool) : List Char → List (List Char)
  | [] => [[]]
  | x :: l =>
    if p x then [] :: split p l
    else
      match split p l with
      | [] => [[x]]
      | field :: fields => (x :: field) :: fields

theorem cut_eq_some_iff {c : Char} {l before after : List Char} :
    cut c l = (before, some after) ↔ c ∉ before ∧ l = before ++ c :: after := by
  induction l generalizing before with
  | nil => simp [cut]
  | cons x l ih =>
    by_cases h : x = c
    · subst h
      cases before with
      | nil => simp [cut]
      | cons y before => simp only [cut, if_true, Prod.mk.injEq, List.mem_cons]; grind
    · cases before with
      | nil => simp [cut, h]
      | cons y before =>
        have := @ih before
        simp only [cut, h, if_false, Prod.mk.injEq, List.cons.injEq, List.mem_cons,
          List.cons_append] at this ⊢
        grind

theorem cut_eq_none_iff {c : Char} {l before : List Char} :
    cut c l = (before, none) ↔ c ∉ l ∧ l = before := by
  induction l generalizing before with
  | nil => simp [cut, eq_comm]
  | cons x l ih =>
    by_cases h : x = c
    · subst h
      simp [cut]
    · cases before with
      | nil => simp [cut, h]
      | cons y before =>
        have := @ih before
        simp only [cut, h, if_false, Prod.mk.injEq, List.cons.injEq, List.mem_cons] at this ⊢
        grind

end SecureForward.Text
