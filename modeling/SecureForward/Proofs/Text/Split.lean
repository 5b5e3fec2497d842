import SecureForward.Text.Blank

/-!
# Splitting and trimming

Splitting a text at a separator that occurs in it gives the fields before it and the fields behind
it (`split_append_cons`), and a text without separators is one field. From this follow the words of
a text that was put together with single blanks, and that trimming leaves a text alone that begins
and ends with something, as every trimmed text does. Visible characters are those that no blank is
among.
-/

namespace SecureForward.Text

/-! ## Visible characters -/

/-- A visible character of ASCII. -/
def IsVisible (c : Char) : Prop :=
  0x21 ≤ c.toNat ∧ c.toNat ≤ 0x7e

/-- Whether characters are visible can be told by looking at them. -/
theorem visible_of_all {l : List Char}
    (h : (l.all fun c => 0x21 ≤ c.toNat && c.toNat ≤ 0x7e) = true) : ∀ c ∈ l, IsVisible c := by
  intro c hc
  simpa [IsVisible] using List.all_eq_true.1 h c hc

/-- A visible character is not blank. -/
theorem IsVisible.isBlank_eq_false {c : Char} (h : IsVisible c) : isBlank c = false := by
  obtain ⟨hlow, hhigh⟩ := h
  have htable : ∀ n ∈ spaceCodes, n < 0x21 ∨ 0x7e < n := by decide
  have hspace : c.toNat ∉ spaceCodes := by
    intro hmem
    have := htable _ hmem
    omega
  have hseparator : isSeparator c = false := by
    unfold isSeparator
    simp only [Bool.and_eq_false_iff, decide_eq_false_iff_not]
    omega
  unfold isBlank isSpace
  simp [hspace, hseparator]

/-! ## Cuts -/

/-- Whether there is anything after a cut or not, nothing is lost by it. -/
theorem eq_append_of_cut {c : Char} {l before : List Char} {after : Option (List Char)}
    (h : cut c l = (before, after)) : c ∉ before ∧ l = before ++ after.elim [] (c :: ·) := by
  cases after with
  | none =>
    obtain ⟨hc, rfl⟩ := cut_eq_none_iff.1 h
    exact ⟨hc, by simp⟩
  | some after => exact cut_eq_some_iff.1 h

/-- What is on either side of a cut was there before. -/
theorem mem_of_cut {c : Char} {l before : List Char} {after : Option (List Char)}
    (h : cut c l = (before, after)) : (∀ x ∈ before, x ∈ l) ∧ ∀ x ∈ after.getD [], x ∈ l := by
  obtain ⟨-, rfl⟩ := eq_append_of_cut h
  refine ⟨fun x hx => List.mem_append_left _ hx, fun x hx => ?_⟩
  cases after with
  | none => cases hx
  | some after => exact List.mem_append_right _ (List.mem_cons_of_mem _ hx)

/-- Nothing is lost by the last cut. -/
theorem eq_append_of_cutLast {c : Char} {l after : List Char} {before : Option (List Char)}
    (h : cutLast c l = (before, after)) : c ∉ after ∧ l = before.elim [] (· ++ [c]) ++ after := by
  unfold cutLast at h
  rcases hcut : cut c l.reverse with ⟨front, back⟩
  rw [hcut] at h
  obtain ⟨rfl, rfl⟩ := Prod.mk.inj h
  obtain ⟨hc, hreverse⟩ := eq_append_of_cut hcut
  refine ⟨by simpa using hc, ?_⟩
  rw [← l.reverse_reverse, hreverse, List.reverse_append]
  cases back with
  | none => rfl
  | some back => simp

/-- The last cut is where no further one follows. -/
theorem cutLast_append_cons {c : Char} {after : List Char} (h : c ∉ after) (before : List Char) :
    cutLast c (before ++ c :: after) = (some before, after) := by
  have hcut : cut c (before ++ c :: after).reverse = (after.reverse, some before.reverse) :=
    cut_eq_some_iff.2 ⟨by simpa using h, by simp⟩
  unfold cutLast
  rw [hcut]
  simp

/-- Text without the character is not cut. -/
theorem cutLast_of_not_mem {c : Char} {l : List Char} (h : c ∉ l) : cutLast c l = (none, l) := by
  have hcut : cut c l.reverse = (l.reverse, none) := cut_eq_none_iff.2 ⟨by simpa using h, rfl⟩
  unfold cutLast
  rw [hcut]
  simp

/-! ## Fields -/

variable {p : Char → Bool}

/-- There is at least one field. -/
theorem split_ne_nil (p : Char → Bool) (l : List Char) : split p l ≠ [] := by
  cases l with
  | nil => simp [split]
  | cons x l =>
    unfold split
    by_cases hx : p x = true
    · simp [hx]
    · rw [if_neg hx]
      cases split p l <;> simp

/-- The fields before a separator and those behind it are the fields of the whole. -/
theorem split_append_cons {c : Char} (hc : p c = true) (a b : List Char) :
    split p (a ++ c :: b) = split p a ++ split p b := by
  induction a with
  | nil => simp [split, hc]
  | cons x a ih =>
    by_cases hx : p x = true
    · simp [split, hx, ih]
    · obtain ⟨field, fields, hsplit⟩ := List.exists_cons_of_ne_nil (split_ne_nil p a)
      simp [split, hx, ih, hsplit]

/-- A text without separators is its only field. -/
theorem split_of_forall {l : List Char} (h : ∀ c ∈ l, p c = false) : split p l = [l] := by
  induction l with
  | nil => rfl
  | cons x l ih =>
    have hx : p x = false := h x (by simp)
    have hl : split p l = [l] := ih fun c hc => h c (by simp [hc])
    simp [split, hx, hl]

/-- No separator is left in a field. -/
theorem eq_false_of_mem_split {l field : List Char} (hfield : field ∈ split p l) :
    ∀ c ∈ field, p c = false := by
  induction l generalizing field with
  | nil =>
    obtain rfl : field = [] := by simpa [split] using hfield
    simp
  | cons x l ih =>
    obtain ⟨first, fields, hsplit⟩ := List.exists_cons_of_ne_nil (split_ne_nil p l)
    rw [hsplit] at ih
    by_cases hx : p x = true
    · simp only [split, hx, if_true, hsplit] at hfield
      rcases List.mem_cons.1 hfield with rfl | hrest
      · simp
      · exact ih hrest
    · simp only [split, hx, hsplit] at hfield
      rcases List.mem_cons.1 hfield with rfl | hrest
      · intro c hc
        rcases List.mem_cons.1 hc with rfl | hc
        · simpa using hx
        · exact ih List.mem_cons_self c hc
      · exact ih (List.mem_cons_of_mem _ hrest)

/-- Fields that are written with a separator between them are the fields of the whole. -/
theorem split_intercalate {c : Char} (hc : p c = true) {fields : List (List Char)}
    (hne : fields ≠ [])
    (h : ∀ field ∈ fields, ∀ x ∈ field, p x = false) :
    split p ([c].intercalate fields) = fields := by
  induction fields with
  | nil => exact absurd rfl hne
  | cons field fields ih =>
    have hfield : split p field = [field] := split_of_forall (h field List.mem_cons_self)
    cases fields with
    | nil => rw [List.intercalate_singleton, hfield]
    | cons next fields =>
      have hrest : split p ([c].intercalate (next :: fields)) = next :: fields :=
        ih (by simp) fun g hg => h g (List.mem_cons_of_mem _ hg)
      calc split p ([c].intercalate (field :: next :: fields))
          = split p (field ++ c :: [c].intercalate (next :: fields)) := by
            rw [List.intercalate_cons_cons, List.append_assoc, List.singleton_append]
        _ = split p field ++ split p ([c].intercalate (next :: fields)) := split_append_cons hc _ _
        _ = field :: next :: fields := by rw [hfield, hrest, List.singleton_append]

/-- A character that is no separator stands in one of the fields. -/
theorem exists_mem_split {l : List Char} {c : Char} (hl : c ∈ l) (hc : p c = false) :
    ∃ field ∈ split p l, c ∈ field := by
  induction l with
  | nil => cases hl
  | cons x l ih =>
    obtain ⟨field, fields, hsplit⟩ := List.exists_cons_of_ne_nil (split_ne_nil p l)
    by_cases hx : p x = true
    · have htail : c ∈ l := by
        rcases List.mem_cons.1 hl with rfl | htail
        · rw [hc] at hx
          cases hx
        · exact htail
      obtain ⟨g, hg, hmem⟩ := ih htail
      exact ⟨g, by simp [split, hx, hg], hmem⟩
    · simp only [split, hx, hsplit]
      rcases List.mem_cons.1 hl with rfl | htail
      · exact ⟨c :: field, by simp, by simp⟩
      · obtain ⟨g, hg, hmem⟩ := ih htail
        rw [hsplit] at hg
        rcases List.mem_cons.1 hg with rfl | hg
        · exact ⟨x :: g, by simp, by simp [hmem]⟩
        · exact ⟨g, by simp [hg], hmem⟩

/-- A change of single characters that leaves the separators where they are changes the fields
alike. -/
theorem split_map {f : Char → Char} (h : ∀ c, p (f c) = p c) (l : List Char) :
    split p (l.map f) = (split p l).map (List.map f) := by
  induction l with
  | nil => rfl
  | cons x l ih =>
    by_cases hx : p x = true
    · simp [split, h, hx, ih]
    · obtain ⟨field, fields, hsplit⟩ := List.exists_cons_of_ne_nil (split_ne_nil p l)
      simp [split, h, hx, ih, hsplit]

/-- The last field is empty exactly when nothing follows the last separator. -/
theorem getLast?_split_eq_nil_iff {l : List Char} :
    (split p l).getLast? = some [] ↔ l = [] ∨ ∃ c, l.getLast? = some c ∧ p c = true := by
  rcases List.eq_nil_or_concat l with rfl | ⟨a, c, rfl⟩
  · simp [split]
  rw [List.concat_eq_append]
  by_cases hc : p c = true
  · rw [split_append_cons hc]
    simp [split, hc]
  · -- The last character belongs to the last field, so that field is not empty.
    have hlast : (split p (a ++ [c])).getLast? ≠ some [] := by
      induction a with
      | nil => simp [split, hc]
      | cons x a ih =>
        obtain ⟨field, fields, hsplit⟩ := List.exists_cons_of_ne_nil (split_ne_nil p (a ++ [c]))
        rw [hsplit] at ih
        by_cases hx : p x = true
        · simpa [split, hx, hsplit] using ih
        · cases fields with
          | nil => simp [split, hx, hsplit]
          | cons => simpa [split, hx, hsplit] using ih
    simp [hlast, hc]

/-- The words before a blank and those behind it are the words of the whole. -/
theorem words_append_cons {c : Char} (hc : isBlank c = true) (a b : List Char) :
    words (a ++ c :: b) = words a ++ words b := by
  unfold words
  rw [split_append_cons hc, List.filter_append]

/-- A word is its only word. -/
theorem words_of_forall {word : List Char} (hword : ∀ c ∈ word, isBlank c = false)
    (hne : word ≠ []) : words word = [word] := by
  unfold words
  rw [split_of_forall hword]
  simp [hne]

/-- Stripping leaves a text alone that neither begins nor ends with what is stripped. -/
theorem strip_eq_self {l : List Char} (hhead : ∀ c, l.head? = some c → p c = false)
    (hlast : ∀ c, l.getLast? = some c → p c = false) : strip p l = l := by
  have hdrop {l : List Char} (h : ∀ c, l.head? = some c → p c = false) : l.dropWhile p = l := by
    cases l with
    | nil => rfl
    | cons x l => simp [List.dropWhile, h x rfl]
  unfold strip
  rw [hdrop hhead, hdrop (by simpa using hlast), List.reverse_reverse]

/-- What is left by stripping does not end with what is stripped. -/
theorem getLast?_strip {l : List Char} {c : Char} (h : (strip p l).getLast? = some c) :
    p c = false := by
  unfold strip at h
  rw [List.getLast?_reverse] at h
  have hdrop := List.head?_dropWhile_not p (l.dropWhile p).reverse
  rw [h] at hdrop
  exact hdrop

/-- What is left by stripping does not begin with what is stripped. -/
theorem head?_strip {l : List Char} {c : Char} (h : (strip p l).head? = some c) : p c = false := by
  unfold strip at h
  rw [List.head?_reverse] at h
  -- The end that is stripped last leaves the first character where it is, if any is left.
  obtain ⟨front, hfront⟩ := List.dropWhile_suffix (l := (l.dropWhile p).reverse) p
  have hfirst : (l.dropWhile p).head? = some c := by
    rw [← List.getLast?_reverse, ← hfront, List.getLast?_append, h]
    rfl
  have hdrop := List.head?_dropWhile_not p l
  rw [hfirst] at hdrop
  exact hdrop

/-- A text that is not empty and has no blanks at its ends. -/
structure IsFilled (s : String) : Prop where
  /-- There is something in the text. -/
  ne_empty : s ≠ ""
  /-- The text does not begin with a blank. -/
  head : ∀ c, s.toList.head? = some c → isBlank c = false
  /-- The text does not end with a blank. -/
  last : ∀ c, s.toList.getLast? = some c → isBlank c = false

/-- A trimmed text has no blanks at its ends. -/
theorem isFilled_trimmed {s : String} (h : trimmed s ≠ "") : IsFilled (trimmed s) := by
  have hlist : (trimmed s).toList = strip isBlank s.toList := String.toList_ofList
  refine ⟨h, fun c hc => ?_, fun c hc => ?_⟩
  · rw [hlist] at hc
    exact head?_strip hc
  · rw [hlist] at hc
    exact getLast?_strip hc

/-- A text without blanks at its ends is left alone by trimming. -/
theorem IsFilled.trimmed_eq {s : String} (h : IsFilled s) : trimmed s = s := by
  unfold trimmed trim
  rw [strip_eq_self h.head h.last, String.ofList_toList]

end SecureForward.Text
