import SecureForward.Endpoint.Uri
import SecureForward.Proofs.Endpoint.IpAddress

/-!
# Reading back a URI

A text is divided into the parts of a URI by three cuts inside each other: the scheme, the
authority, and the rest with path, query and fragment. `wellFormed_of_ofList` says what such parts
hold, and `WellFormed.ofList_toList` that parts of this kind are read back as they were written. So
a part may be replaced by any other that keeps the parts well formed.

The cuts need less than this: `Legible` parts may have brackets out of order, and are then refused
for them (`Legible.ofList_toList_of_error`).
-/

namespace SecureForward.Uri

open SecureForward.Text

/-- The scheme of a URI: letters, digits and the like after a first letter, all of them small. -/
structure IsScheme (scheme : List Char) : Prop where
  /-- It begins with a letter. -/
  head : ∃ c rest, scheme = c :: rest ∧ c.isAlpha = true
  /-- Its characters may stand in a scheme. -/
  chars : ∀ c ∈ scheme, isSchemeChar c = true
  /-- Its letters are small. -/
  small : scheme.map Char.toLower = scheme

/-- Characters that are left out wherever they stand. -/
def isBreak (c : Char) : Bool :=
  c == '\t' || c == '\r' || c == '\n'

/-- The parts of a URI with a scheme and an authority, as they are read from a text. -/
structure WellFormed (u : Uri) : Prop where
  /-- There is a scheme. -/
  scheme : IsScheme u.scheme
  /-- Nothing in the authority ends it. -/
  authority : ∀ c ∈ u.authority, endsAuthority c = false
  /-- Brackets in the authority stand where they may. -/
  brackets : checkBrackets u.authority = .ok ()
  /-- No character of the authority turns into a delimiter. -/
  hidden : checkHidden u.authority = .ok ()
  /-- A path begins with a slash. -/
  path_head : ∀ c, u.path.head? = some c → c = '/'
  /-- No query begins in the path. -/
  path : '?' ∉ u.path
  /-- No fragment begins in the path or the query. -/
  query : '#' ∉ u.path ∧ '#' ∉ u.query
  /-- There are no tabs and line breaks. -/
  unbroken : ∀ part ∈ [u.authority, u.path, u.query, u.fragment], ∀ c ∈ part, isBreak c = false

/-- The parts of a URI that can be told apart where they are written one behind the other. What the
authority is checked for besides does not matter for this. -/
structure Legible (u : Uri) : Prop where
  /-- There is a scheme. -/
  scheme : IsScheme u.scheme
  /-- Nothing in the authority ends it. -/
  authority : ∀ c ∈ u.authority, endsAuthority c = false
  /-- A path begins with a slash. -/
  path_head : ∀ c, u.path.head? = some c → c = '/'
  /-- No query begins in the path. -/
  path : '?' ∉ u.path
  /-- No fragment begins in the path or the query. -/
  query : '#' ∉ u.path ∧ '#' ∉ u.query
  /-- There are no tabs and line breaks. -/
  unbroken : ∀ part ∈ [u.authority, u.path, u.query, u.fragment], ∀ c ∈ part, isBreak c = false

/-- Well-formed parts can be told apart. -/
theorem WellFormed.legible {u : Uri} (h : u.WellFormed) : u.Legible :=
  ⟨h.scheme, h.authority, h.path_head, h.path, h.query, h.unbroken⟩

/-- Parts that can be told apart are well formed if their authority passes the two checks. -/
theorem Legible.wellFormed {u : Uri} (h : u.Legible)
    (hbrackets : checkBrackets u.authority = .ok ())
    (hhidden : checkHidden u.authority = .ok ()) : u.WellFormed :=
  ⟨h.scheme, h.authority, hbrackets, hhidden, h.path_head, h.path, h.query, h.unbroken⟩

/-! ## The three cuts -/

/-- A text whose cuts are these, and whose authority passes the two checks, is a URI. -/
theorem ofList_of_cuts {l rest tail front : List Char} {u : Uri}
    {query fragment : Option (List Char)}
    (hscheme : takeScheme (clean l) = (u.scheme, rest))
    (hauthority : takeAuthority rest = (u.authority, tail))
    (hbrackets : checkBrackets u.authority = .ok ()) (hfragment : cut '#' tail = (front, fragment))
    (hquery : cut '?' front = (u.path, query)) (hhidden : checkHidden u.authority = .ok ())
    (hqueryText : query.getD [] = u.query) (hfragmentText : fragment.getD [] = u.fragment) :
    ofList l = .ok u := by
  unfold ofList
  rw [hscheme]
  dsimp only
  rw [hauthority]
  dsimp only
  rw [hfragment]
  dsimp only
  rw [hquery]
  dsimp only
  rw [hbrackets, hhidden, hqueryText, hfragmentText]
  rfl

/-- A text that is a URI has such cuts. -/
theorem exists_cuts_of_ofList {l : List Char} {u : Uri} (h : ofList l = .ok u) :
    ∃ rest tail front query fragment, takeScheme (clean l) = (u.scheme, rest) ∧
      takeAuthority rest = (u.authority, tail) ∧ checkBrackets u.authority = .ok () ∧
      cut '#' tail = (front, fragment) ∧ cut '?' front = (u.path, query) ∧
      checkHidden u.authority = .ok () ∧ query.getD [] = u.query ∧
      fragment.getD [] = u.fragment := by
  unfold ofList at h
  rcases hscheme : takeScheme (clean l) with ⟨scheme, rest⟩
  rw [hscheme] at h
  dsimp only at h
  rcases hauthority : takeAuthority rest with ⟨authority, tail⟩
  rw [hauthority] at h
  dsimp only at h
  rcases hfragment : cut '#' tail with ⟨front, fragment⟩
  rw [hfragment] at h
  dsimp only at h
  rcases hquery : cut '?' front with ⟨path, query⟩
  rw [hquery] at h
  dsimp only at h
  rcases hbrackets : checkBrackets authority with e | _
  · rw [hbrackets] at h
    cases h
  rcases hhidden : checkHidden authority with e | _
  · rw [hbrackets, hhidden] at h
    cases h
  rw [hbrackets, hhidden] at h
  obtain rfl := Except.ok.inj h
  exact ⟨rest, tail, front, query, fragment, rfl, hauthority, hbrackets, hfragment, hquery, hhidden,
    rfl, rfl⟩

/-- A scheme that was written before a colon is read back. -/
theorem IsScheme.takeScheme_append {scheme : List Char} (h : IsScheme scheme) (rest : List Char) :
    takeScheme (scheme ++ ':' :: rest) = (scheme, rest) := by
  have hcolon : ':' ∉ scheme := fun hmem => absurd (h.chars ':' hmem) (by decide)
  obtain ⟨c, chars, hcons, hletter⟩ := h.head
  have hchars := h.chars
  have hsmall := h.small
  rw [hcons] at hcolon hchars hsmall ⊢
  unfold takeScheme
  rw [cut_eq_some_iff.2 ⟨hcolon, rfl⟩]
  dsimp only
  rw [if_pos, hsmall]
  rw [hletter, Bool.true_and]
  exact List.all_eq_true.2 fun x hx => hchars x (List.mem_cons_of_mem _ hx)

/-- What may stand in a scheme may stand there as a small letter. -/
theorem isSchemeChar_toLower (c : Char) : isSchemeChar c.toLower = isSchemeChar c :=
  toLower_induction (P := fun c small => isSchemeChar small = isSchemeChar c) (fun _ => rfl)
    (by decide) c

/-- A text that begins with a scheme has a colon after it. -/
theorem isScheme_of_takeScheme {l scheme rest : List Char} (h : takeScheme l = (scheme, rest))
    (hne : scheme ≠ []) : IsScheme scheme ∧ ∀ c ∈ rest, c ∈ l := by
  unfold takeScheme at h
  split at h
  · rename_i c chars after hcut
    obtain ⟨-, hl⟩ := cut_eq_some_iff.1 hcut
    split at h
    · rename_i hvalid
      obtain ⟨hletter, hchars⟩ := Bool.and_eq_true_iff.1 hvalid
      obtain ⟨rfl, rfl⟩ := Prod.mk.inj h
      refine ⟨⟨⟨c.toLower, chars.map Char.toLower, rfl, ?_⟩, ?_, map_toLower_map_toLower _⟩, ?_⟩
      · have halpha : c.toLower.isAlpha = c.isAlpha :=
          toLower_induction (P := fun c small => small.isAlpha = c.isAlpha) (fun _ => rfl)
            (by decide) c
        rw [halpha, hletter]
      · intro x hx
        obtain ⟨y, hy, rfl⟩ := List.mem_map.1 hx
        rw [isSchemeChar_toLower]
        rcases List.mem_cons.1 hy with rfl | hy
        · simp [isSchemeChar, hletter]
        · exact List.all_eq_true.1 hchars y hy
      · intro x hx
        rw [hl]
        simp [hx]
    · exact absurd (Prod.mk.inj h).1.symm hne
  · exact absurd (Prod.mk.inj h).1.symm hne

/-- An authority that was written after two slashes is read back. -/
theorem takeAuthority_append {authority tail : List Char}
    (hauthority : ∀ c ∈ authority, endsAuthority c = false)
    (htail : ∀ c, tail.head? = some c → endsAuthority c = true) :
    takeAuthority ('/' :: '/' :: (authority ++ tail)) = (authority, tail) := by
  have hend :
      tail.takeWhile (!endsAuthority ·) = [] ∧ tail.dropWhile (!endsAuthority ·) = tail := by
    cases tail with
    | nil => exact ⟨rfl, rfl⟩
    | cons c tail => simp [htail c rfl]
  change ((authority ++ tail).takeWhile (!endsAuthority ·),
    (authority ++ tail).dropWhile (!endsAuthority ·)) = _
  rw [List.takeWhile_append_of_pos (by simpa using hauthority),
    List.dropWhile_append_of_pos (by simpa using hauthority), hend.1, hend.2, List.append_nil]

/-- A text with an authority has two slashes before it, and something that ends it or nothing after
it. -/
theorem cuts_of_takeAuthority {l authority tail : List Char}
    (h : takeAuthority l = (authority, tail)) (hne : authority ≠ []) :
    l = '/' :: '/' :: (authority ++ tail) ∧ (∀ c ∈ authority, endsAuthority c = false) ∧
      ∀ c, tail.head? = some c → endsAuthority c = true := by
  unfold takeAuthority at h
  split at h
  · rename_i l
    obtain ⟨rfl, rfl⟩ := Prod.mk.inj h
    refine ⟨by rw [List.takeWhile_append_dropWhile], fun c hc => ?_, fun c hc => ?_⟩
    · simpa using List.all_eq_true.1 List.all_takeWhile c hc
    · have hdrop := List.head?_dropWhile_not (!endsAuthority ·) l
      rw [hc] at hdrop
      simpa using hdrop
  · exact absurd (Prod.mk.inj h).1.symm hne

/-! ## Cleaning -/

/-- There are no breaks in a text that was cleaned. -/
theorem isBreak_of_mem_clean {l : List Char} {c : Char} (h : c ∈ clean l) : isBreak c = false := by
  unfold clean at h
  have hkept := (List.mem_filter.1 h).2
  unfold isBreak
  simp_all

/-- A text that begins with something visible and has no breaks is clean. -/
theorem clean_eq_self {l : List Char} (hhead : ∀ c, l.head? = some c → 0x20 < c.toNat)
    (hunbroken : ∀ c ∈ l, isBreak c = false) : clean l = l := by
  have hdrop : (l.dropWhile fun c => c.toNat ≤ 0x20) = l := by
    cases l with
    | nil => rfl
    | cons c l =>
      have hc := hhead c rfl
      simp [show ¬c.toNat ≤ 0x20 by omega]
  unfold clean
  rw [hdrop, List.filter_eq_self]
  intro c hc
  have hbreak := hunbroken c hc
  unfold isBreak at hbreak
  simp_all

/-! ## Reading and writing -/

/-- Something with a mark before it, or nothing. -/
def marked (mark : Char) (part : List Char) : List Char :=
  if part.isEmpty then [] else mark :: part

/-- A part that was written with a mark is read back. -/
theorem cut_append_marked {mark : Char} {before : List Char} (h : mark ∉ before)
    (part : List Char) :
    ∃ after, cut mark (before ++ marked mark part) = (before, after) ∧ after.getD [] = part := by
  unfold marked
  cases part with
  | nil => exact ⟨none, by simpa using cut_eq_none_iff.2 ⟨h, rfl⟩, rfl⟩
  | cons c part => exact ⟨some (c :: part), cut_eq_some_iff.2 ⟨h, rfl⟩, rfl⟩

/-- What a marked part holds. -/
theorem mem_marked {mark c : Char} {part : List Char} (h : c ∈ marked mark part) :
    c = mark ∨ c ∈ part := by
  unfold marked at h
  split at h
  · cases h
  · exact List.mem_cons.1 h

/-- The parts of a URI with a scheme and an authority are well formed. -/
theorem wellFormed_of_ofList {l : List Char} {u : Uri} (h : ofList l = .ok u)
    (hscheme : u.scheme ≠ []) (hauthority : u.authority ≠ []) : u.WellFormed := by
  obtain ⟨rest, tail, front, query, fragment, hrest, htail, hbrackets, hfront, hpath, hhidden,
    hquery, hfragment⟩ := exists_cuts_of_ofList h
  obtain ⟨hisScheme, hclean⟩ := isScheme_of_takeScheme hrest hscheme
  obtain ⟨hslashes, hnoEnd, hend⟩ := cuts_of_takeAuthority htail hauthority
  obtain ⟨hnumber, htailEq⟩ := eq_append_of_cut hfront
  obtain ⟨hquestion, hfrontEq⟩ := eq_append_of_cut hpath
  obtain ⟨hfrontMem, hfragmentMem⟩ := mem_of_cut hfront
  obtain ⟨hpathMem, hqueryMem⟩ := mem_of_cut hpath
  rw [hfragment] at hfragmentMem
  rw [hquery] at hqueryMem
  have hunbroken (c : Char) (hc : c ∈ u.authority ∨ c ∈ tail) : isBreak c = false := by
    refine isBreak_of_mem_clean (hclean c ?_)
    rw [hslashes]
    simp [hc]
  refine ⟨hisScheme, hnoEnd, hbrackets, hhidden, fun c hc => ?_, hquestion,
    ⟨fun hmem => hnumber (hpathMem _ hmem), fun hmem => hnumber (hqueryMem _ hmem)⟩, ?_⟩
  · -- The first character of the path ends the authority and begins no query and no fragment.
    have hcmem : c ∈ u.path := List.mem_of_mem_head? hc
    have hcend : endsAuthority c = true := by
      refine hend c ?_
      rw [htailEq, hfrontEq, List.append_assoc, List.head?_append, hc]
      rfl
    have hne : c ≠ '?' ∧ c ≠ '#' :=
      ⟨fun heq => hquestion (heq ▸ hcmem), fun heq => hnumber (heq ▸ hpathMem c hcmem)⟩
    unfold endsAuthority at hcend
    simpa [hne] using hcend
  · simp only [List.mem_cons, List.not_mem_nil, or_false]
    rintro part (rfl | rfl | rfl | rfl) c hc
    · exact hunbroken c (.inl hc)
    · exact hunbroken c (.inr (hfrontMem c (hpathMem c hc)))
    · exact hunbroken c (.inr (hfrontMem c (hqueryMem c hc)))
    · exact hunbroken c (.inr (hfragmentMem c hc))

/-- The characters of the authority stand in the text. -/
theorem mem_of_mem_authority {l : List Char} {u : Uri} (h : ofList l = .ok u)
    (hscheme : u.scheme ≠ []) (hauthority : u.authority ≠ []) : ∀ c ∈ u.authority, c ∈ l := by
  obtain ⟨rest, tail, -, -, -, hrest, htail, -⟩ := exists_cuts_of_ofList h
  obtain ⟨-, hclean⟩ := isScheme_of_takeScheme hrest hscheme
  obtain ⟨hslashes, -, -⟩ := cuts_of_takeAuthority htail hauthority
  intro c hc
  have hmem : c ∈ clean l := by
    refine hclean c ?_
    rw [hslashes]
    simp [hc]
  unfold clean at hmem
  exact (List.dropWhile_sublist _).subset (List.mem_filter.1 hmem).1

/-- How a URI is written whose parts can be told apart. -/
theorem Legible.toList_eq {u : Uri} (h : u.Legible) :
    u.toList = u.scheme ++ ':' :: '/' :: '/' :: (u.authority ++
      (u.path ++ marked '?' u.query ++ marked '#' u.fragment)) := by
  obtain ⟨c, rest, hscheme, -⟩ := h.scheme.head
  have hpath : u.path.isEmpty = true ∨ u.path.head? = some '/' := by
    rcases hhead : u.path.head? with _ | c
    · exact .inl (by simpa using hhead)
    · exact .inr (congrArg some (h.path_head c hhead))
  unfold toList marked
  simp only [hscheme, List.isEmpty_cons, Bool.false_eq_true, if_false, Bool.or_eq_true,
    decide_eq_true_eq, hpath, if_true]
  simp

/-- Such a URI is written without anything that cleaning would take away. -/
theorem Legible.clean_toList {u : Uri} (h : u.Legible) : clean u.toList = u.toList := by
  rw [h.toList_eq]
  refine clean_eq_self (fun c hc => ?_) fun c hc => ?_
  · obtain ⟨first, rest, hscheme, hletter⟩ := h.scheme.head
    rw [hscheme] at hc
    obtain rfl := Option.some.inj hc
    have hvisible (c : Char) (hc : c.toNat ≤ 0x20) : c.isAlpha = false :=
      ascii_induction (P := fun c => c.toNat ≤ 0x20 → c.isAlpha = false) (by decide) (by omega) hc
    refine Nat.lt_of_not_le fun hle => ?_
    rw [hvisible first hle] at hletter
    cases hletter
  · have hchar (c : Char) : isSchemeChar c = true → isBreak c = false := by
      refine fun hc => Bool.eq_false_iff.2 fun hbreak => ?_
      have hcases : c = '\t' ∨ c = '\r' ∨ c = '\n' := by simpa [isBreak, or_assoc] using hbreak
      rcases hcases with rfl | rfl | rfl <;> cases hc
    have hpart {part : List Char} (hmem : part ∈ [u.authority, u.path, u.query, u.fragment])
        (hc : c ∈ part) :
        isBreak c = false := h.unbroken part hmem c hc
    simp only [List.mem_append, List.mem_cons] at hc
    rcases hc with hc | rfl | rfl | rfl | hc | (hc | hc) | hc
    · exact hchar c (h.scheme.chars c hc)
    · rfl
    · rfl
    · rfl
    · exact hpart (by simp) hc
    · exact hpart (by simp) hc
    · rcases mem_marked hc with rfl | hc
      · rfl
      · exact hpart (by simp) hc
    · rcases mem_marked hc with rfl | hc
      · rfl
      · exact hpart (by simp) hc

/-- The scheme and the authority of such a URI are cut off as they were written. -/
theorem Legible.cuts {u : Uri} (h : u.Legible) :
    ∃ rest, takeScheme (clean u.toList) = (u.scheme, rest) ∧
      takeAuthority rest =
        (u.authority, u.path ++ marked '?' u.query ++ marked '#' u.fragment) := by
  refine ⟨_, ?_, takeAuthority_append h.authority ?_⟩
  · rw [h.clean_toList, h.toList_eq, h.scheme.takeScheme_append]
  · -- The authority is followed by a path, a query or a fragment, if by anything.
    intro c hc
    rw [List.head?_append, List.head?_append] at hc
    rcases hpath : u.path.head? with _ | first
    · rw [hpath, Option.none_or] at hc
      unfold marked at hc
      split at hc
      · split at hc
        · cases hc
        · obtain rfl := Option.some.inj hc
          rfl
      · obtain rfl := Option.some.inj hc
        rfl
    · rw [hpath] at hc
      obtain rfl := Option.some.inj hc
      rw [h.path_head _ hpath]
      rfl

/-- A well-formed URI is read back as it was written. -/
theorem WellFormed.ofList_toList {u : Uri} (h : u.WellFormed) : ofList u.toList = .ok u := by
  have hnumber : '#' ∉ u.path ++ marked '?' u.query := by
    intro hmem
    rcases List.mem_append.1 hmem with hmem | hmem
    · exact h.query.1 hmem
    · rcases mem_marked hmem with heq | hmem
      · cases heq
      · exact h.query.2 hmem
  obtain ⟨fragment, hfragment, hfragmentText⟩ := cut_append_marked hnumber u.fragment
  obtain ⟨query, hquery, hqueryText⟩ := cut_append_marked h.path u.query
  obtain ⟨rest, hscheme, hauthority⟩ := h.legible.cuts
  exact ofList_of_cuts hscheme hauthority h.brackets hfragment hquery h.hidden hqueryText
    hfragmentText

/-- A URI is not read back if the brackets in its authority are out of order. -/
theorem Legible.ofList_toList_of_error {u : Uri} {e : Error} (h : u.Legible)
    (hbrackets : checkBrackets u.authority = .error e) : ofList u.toList = .error e := by
  obtain ⟨rest, hscheme, hauthority⟩ := h.cuts
  unfold ofList
  rw [hscheme]
  dsimp only
  rw [hauthority]
  dsimp only
  rw [hbrackets]
  rfl

end SecureForward.Uri
