import SecureForward.Files.Path
import SecureForward.Proofs.Text.Split
import Mathlib.Data.List.TakeWhile
import Mathlib.Logic.Relation
import Mathlib.Tactic.SplitIfs

/-!
# Normal forms of paths

Names are followed one by one from the root, with the names so far on a stack. What this comes to is
said without the stack: `Shortens` takes one name out that leads nowhere, or two dots together with
the name in front of them. Following names shortens them (`shortens_foldl`), and whatever is
shortened leads to the same place (`collapse_of_shortens`), so there is one list of names that
cannot be shortened further (`collapse_eq_iff`). A path is the `IsNormalForm` of a text if its names
are this list.

The text of a path in normal form is left alone by `resolve` (`resolve_toList`), since it begins
with a slash and none of its names leads back or nowhere. A text that begins at the home directory
stands for what follows it there, unless what follows begins with a slash itself (`resolve_home`).
-/

namespace SecureForward.Path

open Relation (ReflTransGen)
open SecureForward.Text

/-! ## Names -/

/-- A name that leads one directory down. -/
structure IsName (name : List Char) : Prop where
  /-- The name is not empty. -/
  ne_nil : name ≠ []
  /-- It is not the dot of the directory itself. -/
  ne_dot : name ≠ ['.']
  /-- It is not the two dots of the directory above. -/
  ne_up : name ≠ ['.', '.']
  /-- It is a single name. -/
  slash_not_mem : '/' ∉ name

variable {name : List Char} {names names' above : List (List Char)}

/-- A name is put on top of those above it. -/
theorem step_of_isName (h : IsName name) (above : List (List Char)) :
    step above name = name :: above := by
  unfold step
  rw [if_neg (by simp [h.ne_nil, h.ne_dot]), if_neg h.ne_up]

/-- An empty name and a dot lead nowhere. -/
theorem step_of_skip (h : name = [] ∨ name = ['.']) (above : List (List Char)) :
    step above name = above := by
  unfold step
  rw [if_pos (by simpa using h)]

/-- Two dots lead back. -/
theorem step_up (above : List (List Char)) : step above ['.', '.'] = above.tail := by
  unfold step
  rw [if_neg (by decide), if_pos rfl]

/-- Without a slash in it, what stands between slashes leads nowhere, back or down. -/
theorem skip_or_up_or_isName (h : '/' ∉ name) :
    (name = [] ∨ name = ['.']) ∨ name = ['.', '.'] ∨ IsName name := by
  by_cases hskip : name = [] ∨ name = ['.']
  · exact .inl hskip
  by_cases hup : name = ['.', '.']
  · exact .inr (.inl hup)
  obtain ⟨hne, hdot⟩ := not_or.1 hskip
  exact .inr (.inr ⟨hne, hdot, hup, h⟩)

/-! ## Shortening -/

/-- Names are shortened by one step. -/
inductive Shortens : List (List Char) → List (List Char) → Prop where
  /-- A name that leads nowhere is left out. -/
  | skip {name : List Char} (h : name = [] ∨ name = ['.']) (before after : List (List Char)) :
    Shortens (before ++ name :: after) (before ++ after)
  /-- A name is left out with the two dots behind it. -/
  | back {name : List Char} (h : IsName name) (before after : List (List Char)) :
    Shortens (before ++ name :: ['.', '.'] :: after) (before ++ after)
  /-- Nothing is above the root. -/
  | stay (after : List (List Char)) : Shortens (['.', '.'] :: after) after

/-- Shortened names lead to the same place. -/
theorem collapse_of_shortens (h : Shortens names names') : collapse names' = collapse names := by
  unfold collapse
  cases h with
  | @skip name hname before after =>
    rw [List.foldl_append, List.foldl_append, List.foldl_cons, step_of_skip hname]
  | @back name hname before after =>
    rw [List.foldl_append, List.foldl_append, List.foldl_cons, List.foldl_cons,
      step_of_isName hname, step_up, List.tail_cons]
  | stay => rfl

/-- Names that are shortened any number of times lead to the same place. -/
theorem collapse_of_reflTransGen (h : ReflTransGen Shortens names names') :
    collapse names' = collapse names := by
  induction h with
  | refl => rfl
  | tail _ hstep ih => rw [collapse_of_shortens hstep, ih]

/-- Following names shortens them: what is on the stack at the end is what the names that were there
and the names to come are shortened to, and it holds nothing but names that lead down. -/
theorem shortens_foldl (h : ∀ name ∈ names, '/' ∉ name) (habove : ∀ name ∈ above, IsName name) :
    ReflTransGen Shortens (above.reverse ++ names) (names.foldl step above).reverse ∧
      ∀ name ∈ names.foldl step above, IsName name := by
  induction names generalizing above with
  | nil => exact ⟨by rw [List.append_nil]; exact .refl, habove⟩
  | cons name names ih =>
    have hnames : ∀ name ∈ names, '/' ∉ name := fun g hg => h g (List.mem_cons_of_mem _ hg)
    rw [List.foldl_cons]
    rcases skip_or_up_or_isName (h name List.mem_cons_self) with hskip | rfl | hname
    · rw [step_of_skip hskip]
      obtain ⟨hrest, hdown⟩ := ih hnames habove
      exact ⟨.head (.skip hskip above.reverse names) hrest, hdown⟩
    · rw [step_up]
      cases above with
      | nil =>
        obtain ⟨hrest, hdown⟩ := ih hnames habove
        exact ⟨.head (.stay names) hrest, hdown⟩
      | cons last above =>
        -- The name that the two dots take back is the last of those so far.
        have hlast : IsName last := habove last List.mem_cons_self
        obtain ⟨hrest, hdown⟩ := ih hnames fun g hg => habove g (List.mem_cons_of_mem _ hg)
        refine ⟨.head ?_ hrest, hdown⟩
        rw [List.reverse_cons, List.append_assoc]
        exact .back hlast above.reverse names
    · rw [step_of_isName hname]
      have hstack : ∀ g ∈ name :: above, IsName g := by
        intro g hg
        rcases List.mem_cons.1 hg with rfl | hg
        · exact hname
        · exact habove g hg
      obtain ⟨hrest, hdown⟩ := ih hnames hstack
      rw [List.reverse_cons, List.append_assoc] at hrest
      exact ⟨hrest, hdown⟩

/-- Names that all lead down end up on the stack. -/
theorem foldl_step_of_isName (h : ∀ name ∈ names, IsName name) (above : List (List Char)) :
    names.foldl step above = names.reverse ++ above := by
  induction names generalizing above with
  | nil => rfl
  | cons name names ih =>
    rw [List.foldl_cons, step_of_isName (h name List.mem_cons_self),
      ih fun g hg => h g (List.mem_cons_of_mem _ hg), List.reverse_cons, List.append_assoc]
    rfl

/-- Names that all lead down remain. -/
theorem collapse_of_isName (h : ∀ name ∈ names, IsName name) : collapse names = names := by
  unfold collapse
  rw [foldl_step_of_isName h, List.append_nil, List.reverse_reverse]

/-- What remains of names is the one list of names that all lead down to which they can be
shortened. -/
theorem collapse_eq_iff (h : ∀ name ∈ names, '/' ∉ name) :
    collapse names = names' ↔
      ReflTransGen Shortens names names' ∧ ∀ name ∈ names', IsName name := by
  constructor
  · rintro rfl
    obtain ⟨hshort, hdown⟩ := @shortens_foldl names [] h (by simp)
    exact ⟨hshort, fun name hname => hdown name (List.mem_reverse.1 hname)⟩
  · rintro ⟨hshort, hdown⟩
    calc collapse names = collapse names' := (collapse_of_reflTransGen hshort).symm
      _ = names' := collapse_of_isName hdown

/-! ## Normal forms -/

/-- A path is the normal form of an absolute text. -/
structure IsNormalForm (l : List Char) (path : Path) : Prop where
  /-- The text is absolute. -/
  absolute : l.head? = some '/'
  /-- The path begins with two slashes where the text begins with exactly two. -/
  doubled : path.doubled = true ↔ l.takeWhile (· = '/') = ['/', '/']
  /-- The names of the path are what stands between the slashes of the text, in short. -/
  shortened : ReflTransGen Shortens (split (· = '/') l) path.names
  /-- They cannot be shortened further. -/
  names : ∀ name ∈ path.names, IsName name

/-- Whether a text begins with exactly two slashes can be told from its first three characters. -/
theorem startsDoubled_iff {l : List Char} :
    startsDoubled l = true ↔ l.takeWhile (· = '/') = ['/', '/'] := by
  unfold startsDoubled
  split
  · simp
  · rename_i l' hthird
    cases l' with
    | nil => simp
    | cons c l' =>
      have hc : c ≠ '/' := fun hc => hthird l' (by rw [hc])
      simp [hc]
  · rename_i hthree htwo
    constructor
    · intro h
      cases h
    · intro h
      obtain ⟨rest, hrest⟩ := List.takeWhile_prefix (l := l) (· = '/')
      rw [h] at hrest
      exact absurd hrest.symm (htwo rest)

/-- What stands between slashes holds none. -/
theorem slash_not_mem_of_mem_split {l field : List Char} (h : field ∈ split (· = '/') l) :
    '/' ∉ field := by
  intro hslash
  have hnone := eq_false_of_mem_split h '/' hslash
  simp at hnone

/-- The path that an absolute text denotes is its only normal form. -/
theorem isNormalForm_iff {l : List Char} {path : Path} (h : l.head? = some '/') :
    IsNormalForm l path ↔ path = ofAbsolute l := by
  have hsplit : ∀ field ∈ split (· = '/') l, '/' ∉ field := fun _ => slash_not_mem_of_mem_split
  constructor
  · rintro ⟨-, hdoubled, hshort, hdown⟩
    obtain ⟨doubled, names⟩ := path
    have hmark : doubled = startsDoubled l := by
      rw [Bool.eq_iff_iff, hdoubled, startsDoubled_iff]
    have hnames : collapse (split (· = '/') l) = names := (collapse_eq_iff hsplit).2 ⟨hshort, hdown⟩
    unfold ofAbsolute
    rw [hmark, hnames]
  · rintro rfl
    obtain ⟨hshort, hdown⟩ := (collapse_eq_iff hsplit).1 rfl
    exact ⟨h, startsDoubled_iff, hshort, hdown⟩

/-- All names of the path that a text denotes lead down. -/
theorem isName_of_mem_ofAbsolute {l : List Char} : ∀ name ∈ (ofAbsolute l).names, IsName name :=
  ((collapse_eq_iff fun _ => slash_not_mem_of_mem_split).1 rfl).2

/-! ## The text of a path -/

/-- A text is that of a path in normal form: one slash or two, and behind them names with single
slashes between them. -/
def IsNormalText (l : List Char) : Prop :=
  ∃ mark names, (mark = ['/'] ∨ mark = ['/', '/']) ∧ (∀ name ∈ names, IsName name) ∧
    l = mark ++ ['/'].intercalate names

/-- A text in normal form is the text of a path with such names. -/
theorem isNormalText_iff {l : List Char} :
    IsNormalText l ↔ ∃ path : Path, (∀ name ∈ path.names, IsName name) ∧ path.toList = l := by
  constructor
  · rintro ⟨mark, names, rfl | rfl, hnames, rfl⟩
    · exact ⟨⟨false, names⟩, hnames, rfl⟩
    · exact ⟨⟨true, names⟩, hnames, rfl⟩
  · rintro ⟨⟨doubled, names⟩, hnames, rfl⟩
    cases doubled with
    | false => exact ⟨['/'], names, .inl rfl, hnames, rfl⟩
    | true => exact ⟨['/', '/'], names, .inr rfl, hnames, rfl⟩

/-- The text of a path begins with a slash. -/
theorem head?_toList (path : Path) : path.toList.head? = some '/' := by
  unfold toList
  cases path.doubled <;> rfl

/-- Behind the mark of the root the text of a path goes on with no slash. -/
theorem head?_intercalate_ne (h : ∀ name ∈ names, IsName name) :
    (['/'].intercalate names).head? ≠ some '/' := by
  cases names with
  | nil => simp
  | cons name names =>
    have hname : IsName name := h name List.mem_cons_self
    obtain ⟨c, rest, rfl⟩ := List.exists_cons_of_ne_nil hname.ne_nil
    have hc : c ≠ '/' := fun hc => hname.slash_not_mem (by rw [hc]; exact List.mem_cons_self)
    cases names with
    | nil => simpa using hc
    | cons next names => simpa using hc

/-- Names that all lead down are what remains of a text that is put together from them. -/
theorem collapse_split_intercalate (h : ∀ name ∈ names, IsName name) :
    collapse (split (· = '/') (['/'].intercalate names)) = names := by
  by_cases hne : names = []
  · subst hne
    rfl
  · have hfields : split (· = '/') (['/'].intercalate names) = names := by
      refine split_intercalate (by simp) hne fun name hname c hc => ?_
      have hslash : c ≠ '/' := fun hslash => (h name hname).slash_not_mem (hslash ▸ hc)
      simpa using hslash
    rw [hfields, collapse_of_isName h]

/-- The text of a path whose names all lead down denotes this path. -/
theorem ofAbsolute_toList {path : Path} (h : ∀ name ∈ path.names, IsName name) :
    ofAbsolute path.toList = path := by
  obtain ⟨doubled, names⟩ := path
  have hhead := head?_intercalate_ne h
  have hnames := collapse_split_intercalate h
  unfold ofAbsolute toList
  dsimp only at hhead hnames ⊢
  generalize ['/'].intercalate names = l at hhead hnames
  -- The mark only adds empty names in front, which lead nowhere.
  have hempty (l : List Char) :
      collapse (split (· = '/') ('/' :: l)) = collapse (split (· = '/') l) := by
    simp [split, collapse, step]
  cases doubled with
  | false =>
    have hmark : startsDoubled ('/' :: l) = false := by
      cases l with
      | nil => rfl
      | cons c l =>
        have hc : c ≠ '/' := by simpa using hhead
        simp [startsDoubled, hc]
    show Path.mk (startsDoubled ('/' :: l)) (collapse (split (· = '/') ('/' :: l))) = _
    rw [hmark, hempty, hnames]
  | true =>
    have hmark : startsDoubled ('/' :: '/' :: l) = true := by
      cases l with
      | nil => rfl
      | cons c l =>
        have hc : c ≠ '/' := by simpa using hhead
        simp [startsDoubled, hc]
    show Path.mk (startsDoubled ('/' :: '/' :: l))
      (collapse (split (· = '/') ('/' :: '/' :: l))) = _
    rw [hmark, hempty, hempty, hnames]

/-! ## Texts that begin with a slash -/

/-- An absolute text stands for itself, whatever the directory. -/
theorem join_of_absolute {l : List Char} (h : l.head? = some '/') (base : List Char) :
    join base l = l := by
  unfold join
  rw [if_pos h]

/-- Any other text is put behind a directory that does not end with a slash. -/
theorem join_of_relative {base l : List Char} (h : l.head? ≠ some '/') (hne : base ≠ [])
    (hlast : base.getLast? ≠ some '/') : join base l = base ++ '/' :: l := by
  unfold join
  rw [if_neg h, if_neg (by simp [hne, hlast])]

/-- An absolute text does not speak of the home directory. -/
theorem startsAtHome_of_absolute {l : List Char} (h : l.head? = some '/') :
    startsAtHome l = false := by
  cases l with
  | nil => rfl
  | cons c l =>
    obtain rfl : c = '/' := by simpa using h
    rfl

/-- An absolute text denotes the same path everywhere. -/
theorem resolve_of_absolute {l : List Char} (h : l.head? = some '/') (current home : List Char) :
    resolve current home l = ofAbsolute l := by
  unfold resolve
  rw [startsAtHome_of_absolute h, if_neg (by simp)]
  dsimp only
  rw [join_of_absolute h]

/-- The text of a path whose names all lead down denotes this path everywhere. -/
theorem resolve_toList {path : Path} (h : ∀ name ∈ path.names, IsName name)
    (current home : List Char) :
    resolve current home path.toList = path := by
  rw [resolve_of_absolute path.head?_toList, ofAbsolute_toList h]

/-- All names of a path that a text denotes lead down. -/
theorem isName_of_mem_resolve {current home l : List Char} :
    ∀ name ∈ (resolve current home l).names, IsName name :=
  isName_of_mem_ofAbsolute

/-! ## Texts that begin at the home directory -/

/-- A path lies in a directory, or is this directory. -/
structure IsWithin (path directory : Path) : Prop where
  /-- Both begin with two slashes or with one. -/
  doubled : path.doubled = directory.doubled
  /-- The path goes on where the directory ends. -/
  names : directory.names <+: path.names

/-- Names without two dots never lead back. -/
theorem suffix_foldl_step (h : ['.', '.'] ∉ names) (above : List (List Char)) :
    above <:+ names.foldl step above := by
  induction names generalizing above with
  | nil => exact List.suffix_rfl
  | cons name names ih =>
    obtain ⟨hname, hnames⟩ : name ≠ ['.', '.'] ∧ ['.', '.'] ∉ names := by
      simpa [eq_comm] using h
    have hstep : above <:+ step above name := by
      unfold step
      split_ifs
      · exact List.suffix_rfl
      · exact List.suffix_cons name above
    rw [List.foldl_cons]
    exact hstep.trans (ih hnames (step above name))

/-- What follows a directory that does not end with a slash changes nothing about its first
slashes. -/
theorem takeWhile_append_slash {home : List Char} (hne : home ≠ [])
    (hlast : home.getLast? ≠ some '/') (rest : List Char) :
    (home ++ '/' :: rest).takeWhile (· = '/') = home.takeWhile (· = '/') := by
  -- The last character of the directory is no slash, so its slashes end inside of it.
  have hends : (home.takeWhile (· = '/')).length ≠ home.length := by
    intro hlength
    have hall : home.takeWhile (· = '/') = home := (List.takeWhile_prefix _).eq_of_length hlength
    have hslash := List.takeWhile_eq_self_iff.1 hall (home.getLast hne) (List.getLast_mem hne)
    rw [List.getLast?_eq_some_getLast hne] at hlast
    exact hlast (congrArg some (by simpa using hslash))
  rw [List.takeWhile_append, if_neg hends]

/-- Without two dots in it, what follows a directory leads to a path in it. -/
theorem isWithin_append {home rest : List Char} (hne : home ≠ []) (hlast : home.getLast? ≠ some '/')
    (hup : ['.', '.'] ∉ split (· = '/') rest) :
    (ofAbsolute (home ++ '/' :: rest)).IsWithin (ofAbsolute home) where
  doubled := by
    show startsDoubled (home ++ '/' :: rest) = startsDoubled home
    rw [Bool.eq_iff_iff, startsDoubled_iff, startsDoubled_iff, takeWhile_append_slash hne hlast]
  names := by
    show collapse (split (· = '/') home) <+: collapse (split (· = '/') (home ++ '/' :: rest))
    rw [split_append_cons (by simp)]
    unfold collapse
    rw [List.foldl_append, List.reverse_prefix]
    exact suffix_foldl_step hup _

/-- A text that begins with a tilde and a slash or a backslash stands for what follows, put behind
the home directory. Only where this begins with a slash again is it taken by itself. -/
theorem resolve_tilde {mark : Char} (hmark : mark = '/' ∨ mark = '\\')
    (current home rest : List Char) :
    resolve current home ('~' :: mark :: rest) = ofAbsolute (join current (join home rest)) := by
  have hhome : startsAtHome ('~' :: mark :: rest) = true := by
    rcases hmark with rfl | rfl <;> rfl
  unfold resolve
  rw [hhome]
  rfl

/-- A text that begins with a tilde and a slash or a backslash denotes what follows in the home
directory, lexically, and a path in this directory if no two dots lead back. But where a second
slash follows, the home directory is left out, and the rest denotes what it would denote alone. -/
theorem resolve_home {home : List Char} (habsolute : home.head? = some '/')
    (hlast : home.getLast? ≠ some '/') {mark : Char} (hmark : mark = '/' ∨ mark = '\\')
    (current rest : List Char) :
    (rest.head? ≠ some '/' →
      IsNormalForm (home ++ '/' :: rest) (resolve current home ('~' :: mark :: rest)) ∧
        (['.', '.'] ∉ split (· = '/') rest →
          (resolve current home ('~' :: mark :: rest)).IsWithin (ofAbsolute home))) ∧
      (rest.head? = some '/' →
        IsNormalForm rest (resolve current home ('~' :: mark :: rest))) := by
  rw [resolve_tilde hmark]
  have hne : home ≠ [] := by
    rintro rfl
    cases habsolute
  constructor
  · intro hrest
    have habove : (home ++ '/' :: rest).head? = some '/' := by
      rw [List.head?_append, habsolute]
      rfl
    rw [join_of_relative hrest hne hlast, join_of_absolute habove]
    exact ⟨(isNormalForm_iff habove).2 rfl, isWithin_append hne hlast⟩
  · intro hrest
    rw [join_of_absolute hrest, join_of_absolute hrest]
    exact (isNormalForm_iff hrest).2 rfl

/-- The home directory of the trial. -/
def trialHome : List Char := "/home/ada".toList

/-- A key in the home directory, with a backslash behind the tilde. -/
theorem resolve_home_trial :
    trialHome.head? = some '/' ∧ trialHome.getLast? ≠ some '/' ∧
      IsNormalForm "/home/ada/.ssh/./id".toList
        (resolve "/work".toList trialHome "~\\.ssh/./id".toList) ∧
      (resolve "/work".toList trialHome "~\\.ssh/./id".toList).IsWithin (ofAbsolute trialHome) := by
  have habsolute : trialHome.head? = some '/' := by decide
  have hlast : trialHome.getLast? ≠ some '/' := by decide
  obtain ⟨hrelative, -⟩ := resolve_home habsolute hlast (.inr rfl) "/work".toList ".ssh/./id".toList
  obtain ⟨hnormal, hwithin⟩ := hrelative (by decide)
  exact ⟨habsolute, hlast, hnormal, hwithin (by decide)⟩

/-- A second slash behind the tilde leads out of the home directory, without any dots. -/
theorem second_slash_leaves_home :
    trialHome.head? = some '/' ∧ trialHome.getLast? ≠ some '/' ∧
      ['.', '.'] ∉ split (· = '/') "/etc/passwd".toList ∧
      (resolve "/work".toList trialHome "~//etc/passwd".toList).toList = "/etc/passwd".toList ∧
      ¬IsNormalForm "/home/ada//etc/passwd".toList
        (resolve "/work".toList trialHome "~//etc/passwd".toList) ∧
      ¬(resolve "/work".toList trialHome "~//etc/passwd".toList).IsWithin
        (ofAbsolute trialHome) := by
  refine ⟨by decide, by decide, by decide, by decide, ?_, ?_⟩
  · rw [isNormalForm_iff (by decide)]
    decide
  · rintro ⟨-, hnames⟩
    revert hnames
    decide

end SecureForward.Path
