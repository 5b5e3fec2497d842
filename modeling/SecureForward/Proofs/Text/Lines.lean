import SecureForward.Proofs.Text.Split
import SecureForward.Text.Lines

/-!
# Adding a line

What becomes of the lines of a text when a line is put behind it or into it. `lines_append` covers a
text that ends with a line break, and so both what is added and what follows it;
`lines_append_break` covers one that does not, and `unifyBreaks_append` carries both to texts with
any line breaks.
-/

namespace SecureForward.Text

/-- A character that is no carriage return is kept. -/
theorem unifyBreaks_cons {c : Char} (hc : c ≠ '\r') (l : List Char) :
    unifyBreaks (c :: l) = c :: unifyBreaks l := by
  rw [unifyBreaks]
  · exact fun _ h _ => hc h
  · exact hc

/-- Line breaks are unified part by part, unless the cut goes through one. -/
theorem unifyBreaks_append {a b : List Char}
    (h : a.getLast? ≠ some '\r' ∨ b.head? ≠ some '\n') :
    unifyBreaks (a ++ b) = unifyBreaks a ++ unifyBreaks b := by
  fun_induction unifyBreaks a with
  | case1 => rfl
  | case2 a ih =>
    have hrec := ih (by cases a <;> simp_all)
    simpa [unifyBreaks] using hrec
  | case3 a hnot ih =>
    cases a with
    | nil =>
      have hb : b.head? ≠ some '\n' := by simpa using h
      cases b with
      | nil => simp [unifyBreaks]
      | cons x b =>
        have hx : x ≠ '\n' := by simpa using hb
        simp [unifyBreaks, hx]
    | cons x a =>
      have hx : x ≠ '\n' := fun hx => hnot a (by rw [hx])
      have hrec := ih (by simpa using h)
      simpa [unifyBreaks, hx] using hrec
  | case4 x a _ hx ih =>
    have hrec : unifyBreaks (a ++ b) = unifyBreaks a ++ unifyBreaks b := by
      refine ih (h.imp_left fun hlast hr => hlast ?_)
      cases a with
      | nil => simp at hr
      | cons => simpa using hr
    rw [List.cons_append, unifyBreaks_cons hx, hrec, List.cons_append]

/-- Without carriage returns there is nothing to unify. -/
theorem unifyBreaks_of_not_mem {l : List Char} (h : '\r' ∉ l) : unifyBreaks l = l := by
  fun_induction unifyBreaks l with
  | case1 => rfl
  | case2 | case3 => simp at h
  | case4 x l _ _ ih => rw [ih (by simp at h; exact h.2)]

/-- Only the empty text has no characters once its line breaks are unified. -/
theorem unifyBreaks_eq_nil_iff {l : List Char} : unifyBreaks l = [] ↔ l = [] := by
  fun_induction unifyBreaks l with
  | case1 => simp
  | case2 | case3 | case4 => simp

/-- Once its line breaks are unified a text ends with a line feed exactly when it ended with a line
break. -/
theorem getLast?_unifyBreaks {l : List Char} :
    (unifyBreaks l).getLast? = some '\n' ↔
      l.getLast? = some '\n' ∨ l.getLast? = some '\r' := by
  have hcons (c : Char) (a : List Char) :
      (c :: a).getLast? = if a = [] then some c else a.getLast? := by
    cases a <;> simp
  fun_induction unifyBreaks l with
  | case1 => simp
  | case2 l ih =>
    rw [hcons, hcons '\r', hcons '\n']
    by_cases hl : l = []
    · simp [hl, unifyBreaks]
    · simpa [hl, unifyBreaks_eq_nil_iff] using ih
  | case3 l _ ih =>
    rw [hcons, hcons '\r']
    by_cases hl : l = []
    · simp [hl, unifyBreaks]
    · simpa [hl, unifyBreaks_eq_nil_iff] using ih
  | case4 c l _ hc ih =>
    rw [hcons, hcons c l]
    by_cases hl : l = []
    · have hne : c ≠ '\r' := hc
      simp [hl, unifyBreaks, hne]
    · simpa [hl, unifyBreaks_eq_nil_iff] using ih

/-- The lines of a text that is empty or ends with a line feed are not changed by what follows. -/
theorem lines_append {l : List Char} (hl : l = [] ∨ l.getLast? = some '\n') (m : List Char) :
    lines (l ++ m) = lines l ++ lines m := by
  rcases hl with rfl | hlast
  · rfl
  · obtain ⟨a, rfl⟩ := List.getLast?_eq_some_iff.1 hlast
    -- Behind the line feed there is nothing, or the fields of what follows.
    have hfront : lines (a ++ ['\n']) = split (· = '\n') a := by
      unfold lines
      rw [split_append_cons (by simp)]
      simp [split]
    have hfields :
        split (· = '\n') (a ++ ['\n'] ++ m) = split (· = '\n') a ++ split (· = '\n') m := by
      rw [List.append_assoc, List.singleton_append, split_append_cons (by simp)]
    have hne := split_ne_nil (· = '\n') m
    have hend :
        (split (· = '\n') a ++ split (· = '\n') m).getLast? = (split (· = '\n') m).getLast? := by
      rw [List.getLast?_append, List.getLast?_eq_some_getLast hne, Option.some_or]
    rw [hfront]
    unfold lines
    dsimp only
    rw [hfields, hend, List.dropLast_append_of_ne_nil hne]
    split <;> rfl

/-- A line that ends with a line feed is one line. -/
theorem lines_singleton {line : List Char} (hline : '\n' ∉ line) :
    lines (line ++ ['\n']) = [line] := by
  have hsplit : split (· = '\n') line = [line] :=
    split_of_forall fun c hc => decide_eq_false fun h => hline (h ▸ hc)
  unfold lines
  rw [split_append_cons (by simp), hsplit]
  simp [split]

/-- A line that is put behind a text that is empty or ends with a line feed is its last one. -/
theorem lines_append_line {l line : List Char} (hl : l = [] ∨ l.getLast? = some '\n')
    (hline : '\n' ∉ line) : lines (l ++ (line ++ ['\n'])) = lines l ++ [line] := by
  rw [lines_append hl, lines_singleton hline]

/-- A line that is put with a line break behind a text without one at its end is its last one. -/
theorem lines_append_break {l line : List Char} (hne : l ≠ []) (hl : l.getLast? ≠ some '\n')
    (hline : '\n' ∉ line) : lines (l ++ '\n' :: (line ++ ['\n'])) = lines l ++ [line] := by
  have hsplit : split (· = '\n') line = [line] :=
    split_of_forall fun c hc => decide_eq_false fun h => hline (h ▸ hc)
  have hlast : (split (· = '\n') l).getLast? ≠ some [] := by
    rw [ne_eq, getLast?_split_eq_nil_iff]
    simpa [hne] using hl
  unfold lines
  rw [split_append_cons (by simp), split_append_cons (by simp), hsplit]
  simp [split, hlast]

end SecureForward.Text
