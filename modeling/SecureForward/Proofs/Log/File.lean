import SecureForward.Log.File
import SecureForward.Proofs.Files.Tree

/-!
# What a log file leaves alone

A line that is written to a log file may move this file and its older copies, each with all that
stands below it. What the single moves and the writing keep, the whole keeps (`append_induction`).
So nothing else is touched, which `sameAt_append` says of each place. The log file itself stays a
file, since it is moved last and made anew at once (`lookup_append`). From both it follows that
every other path that does not lead through a copy is read as before (`reads_append_of_apart`).
-/

namespace SecureForward.Log

open FileTree (SameAt)
open SecureForward.Text.Utf8 (Bytes)

variable {tree tree' : FileTree} {path source target other : Path} {line : List Char}
  {place between : List (List Char)} {content : Bytes}

/-! ## Moving copies -/

/-- The tree that a piece of work leaves, whether it failed or not. -/
def left : Except FileTree FileTree → FileTree
  | .ok tree => tree
  | .error tree => tree

/-- A move takes away what stands at its target, if anything does, and then it is made, unless one
of the two cannot be done or there is nothing to move. -/
theorem replaceBy_cases (source target : Path) (tree : FileTree) :
    (tree.stands source = false ∧ replaceBy source target tree = .ok tree) ∨
      ∃ cleared, (cleared = tree ∨ tree.remove? target = some cleared) ∧
        (replaceBy source target tree = .error cleared ∨
          ∃ moved, cleared.rename? source target = some moved ∧
            replaceBy source target tree = .ok moved) := by
  have hrename (cleared : FileTree) :
      orStop cleared (cleared.rename? source target) = .error cleared ∨
        ∃ moved, cleared.rename? source target = some moved ∧
          orStop cleared (cleared.rename? source target) = .ok moved := by
    rcases cleared.rename? source target with _ | moved
    · exact .inl rfl
    · exact .inr ⟨moved, rfl, rfl⟩
  unfold replaceBy
  cases tree.stands source with
  | false => exact .inl ⟨rfl, rfl⟩
  | true =>
    cases tree.stands target with
    | false => exact .inr ⟨tree, .inl rfl, hrename tree⟩
    | true =>
      rcases hremoved : tree.remove? target with _ | cleared
      · exact .inr ⟨tree, .inl rfl, .inl rfl⟩
      · exact .inr ⟨cleared, .inr rfl, hrename cleared⟩

/-- What is cleared for a move changes nothing but at the target. -/
theorem sameAt_of_cleared (h : tree' = tree ∨ tree.remove? target = some tree')
    (hplace : place ≠ target.names) : SameAt tree tree' place := by
  rcases h with rfl | hremoved
  · exact .refl tree' place
  · exact FileTree.sameAt_remove? hremoved hplace

/-- Moving something to a path changes nothing at other places. -/
theorem sameAt_replaceBy (tree : FileTree) (hsource : ¬ source.names <+: place)
    (htarget : ¬ target.names <+: place) :
    SameAt tree (left (replaceBy source target tree)) place := by
  have hne : place ≠ target.names := by
    rintro rfl
    exact htarget (List.prefix_refl _)
  rcases replaceBy_cases source target tree with
    ⟨-, h⟩ | ⟨cleared, hcleared, h | ⟨moved, hmoved, h⟩⟩
  · rw [h]
    exact .refl tree place
  · rw [h]
    exact sameAt_of_cleared hcleared hne
  · rw [h]
    exact (sameAt_of_cleared hcleared hne).trans (FileTree.sameAt_rename? hmoved hsource htarget)

/-- Where a move fails, nothing has changed but at its target. -/
theorem sameAt_of_replaceBy_error (h : replaceBy source target tree = .error tree')
    (hplace : place ≠ target.names) : SameAt tree tree' place := by
  rcases replaceBy_cases source target tree with
    ⟨-, hok⟩ | ⟨cleared, hcleared, herror | ⟨moved, -, hok⟩⟩
  · cases h.symm.trans hok
  · cases h.symm.trans herror
    exact sameAt_of_cleared hcleared hplace
  · cases h.symm.trans hok

/-- A log file and its copies are no part of the way to a place. -/
def AwayFrom (path : Path) (place : List (List Char)) : Prop :=
  ∀ number ≤ keptFiles, ¬ (copyPath path number).names <+: place

/-- What each move of copies keeps is kept by all of them, also where one fails. -/
theorem left_foldlM {I : FileTree → Prop} {numbers : List Nat}
    (hmove : ∀ number ∈ numbers, ∀ tree, I tree →
      I (left (replaceBy (copyPath path number) (copyPath path (number + 1)) tree)))
    (h : I tree) :
    I (left (numbers.foldlM (fun tree number =>
      replaceBy (copyPath path number) (copyPath path (number + 1)) tree) tree)) := by
  induction numbers generalizing tree with
  | nil => exact h
  | cons number numbers ih =>
    obtain ⟨hfirst, hrest⟩ := List.forall_mem_cons.1 hmove
    have hleft := hfirst tree h
    rw [List.foldlM_cons]
    rcases hreplaced : replaceBy (copyPath path number) (copyPath path (number + 1)) tree with t | t
    · rw [hreplaced] at hleft
      exact hleft
    · rw [hreplaced] at hleft
      exact ih hrest hleft

/-- What is kept by moving copies and by writing to the log file is kept when a line is written. -/
theorem append_induction {I : FileTree → Prop}
    (hmove : ∀ number < keptFiles, ∀ tree, I tree →
      I (left (replaceBy (copyPath path number) (copyPath path (number + 1)) tree)))
    (hextend : ∀ tree old bytes, I tree → I (tree.extend path old bytes)) (h : I tree)
    (line : List Char) : I (append path line tree) := by
  have haside : I (left (if isDue path line tree then putAside path tree else .ok tree)) := by
    split
    · refine left_foldlM (fun number hnumber => ?_) h
      exact hmove number (List.mem_range.1 (List.mem_reverse.1 hnumber))
    · exact h
  unfold append
  split
  · rename_i t ht
    rw [ht] at haside
    exact haside
  · rename_i t ht
    rw [ht] at haside
    split
    · exact hextend t _ _ haside
    · exact haside

/-- A line changes nothing away from the log file that it is written to. -/
theorem sameAt_append (hplace : AwayFrom path place) (line : List Char) (tree : FileTree) :
    SameAt tree (append path line tree) place := by
  have hne : place ≠ path.names := by
    rintro rfl
    exact hplace 0 (Nat.zero_le _) (List.prefix_refl _)
  refine append_induction (I := fun tree' => SameAt tree tree' place)
    (fun number hnumber tree' hsame => ?_)
    (fun tree' old bytes hsame => hsame.trans (FileTree.sameAt_extend tree' old bytes hne))
    (.refl tree place) line
  exact hsame.trans
    (sameAt_replaceBy tree' (hplace number (Nat.le_of_lt hnumber)) (hplace (number + 1) hnumber))

/-- Moving something sets no bound to what can be written. -/
theorem room_replaceBy (hroom : tree.room = none) :
    (left (replaceBy source target tree)).room = none := by
  have hcleared {cleared : FileTree} (h : cleared = tree ∨ tree.remove? target = some cleared) :
      cleared.room = none := by
    rcases h with rfl | hremoved
    · exact hroom
    · exact FileTree.room_remove? hremoved hroom
  rcases replaceBy_cases source target tree with ⟨-, h⟩ | ⟨cleared, hfirst, h | ⟨moved, hmoved, h⟩⟩
  · rw [h]
    exact hroom
  · rw [h]
    exact hcleared hfirst
  · rw [h]
    exact (FileTree.room_rename? hmoved).trans (hcleared hfirst)

/-- A line sets no bound to what can be written. -/
theorem room_append (hroom : tree.room = none) (line : List Char) :
    (append path line tree).room = none :=
  append_induction (I := fun tree => tree.room = none) (fun _ _ _ h => room_replaceBy h)
    (fun _ _ _ h => Option.map_eq_none_iff.2 h) hroom line

/-! ## The log file itself -/

/-- A copy that was put aside stands beside the log file, under a longer name. -/
theorem copyPath_not_begins {number : Nat} (hnumber : number ≠ 0) (hnames : path.names ≠ [])
    (hbetween : between <+: path.names) : ¬ (copyPath path number).names <+: between := by
  intro hcopy
  have hbegins := hcopy.trans hbetween
  obtain ⟨init, last, hpath⟩ : ∃ init last, path.names = init ++ [last] :=
    ⟨_, _, (List.dropLast_concat_getLast hnames).symm⟩
  unfold copyPath at hbegins
  rw [if_neg hnumber] at hbegins
  dsimp only at hbegins
  rw [hpath, List.dropLast_concat, List.getLastD_concat, List.prefix_append_right_inj] at hbegins
  have hname := (List.cons_prefix_cons.1 hbegins).1
  simp at hname

/-- A place that leads through no copy is away from the log file, unless it is at or below it. -/
theorem awayFrom_of_not_begins (hplace : ¬ path.names <+: place)
    (hcopies : ∀ number, 1 ≤ number → number ≤ keptFiles →
      ¬ (copyPath path number).names <+: place) : AwayFrom path place := by
  intro number hnumber
  by_cases hzero : number = 0
  · rw [hzero]
    exact hplace
  · exact hcopies number (Nat.one_le_iff_ne_zero.2 hzero) hnumber

/-- A log file that was moved to its newest copy can be made anew. -/
theorem readToAppend_of_replaceBy (h : tree.lookup path = .ok (.file content))
    (hmoved : replaceBy path (copyPath path 1) tree = .ok tree') :
    tree'.readToAppend path = .ok [] := by
  have hnames := FileTree.names_ne_nil_of_file (FileTree.node?_of_lookup h)
  have hcopy {between : List (List Char)} (hbetween : between <+: path.names) :
      ¬ (copyPath path 1).names <+: between := copyPath_not_begins Nat.one_ne_zero hnames hbetween
  have hsame (between : List (List Char)) (hbetween : between <+: path.names)
      (hne : between ≠ path.names) : SameAt tree tree' between := by
    have hleft := sameAt_replaceBy tree (fun hbegins => hne (hbetween.eq_of_length_le
      hbegins.length_le)) (hcopy hbetween)
    rw [hmoved] at hleft
    exact hleft
  have hstands : tree.stands path = true := by
    unfold FileTree.stands
    rw [h]
    rfl
  rcases replaceBy_cases path (copyPath path 1) tree with
    ⟨hnot, -⟩ | ⟨cleared, hcleared, herror | ⟨moved, hrenamed, hok⟩⟩
  · cases hstands.symm.trans hnot
  · cases hmoved.symm.trans herror
  · cases hmoved.symm.trans hok
    refine FileTree.readToAppend_of_gone h hsame
      (FileTree.node?_rename? hrenamed hnames (hcopy (List.prefix_refl _))) ?_
    -- When the log file is moved, nothing has changed but at the copy.
    have hparent : SameAt tree cleared path.names.dropLast := by
      refine sameAt_of_cleared hcleared fun heq => ?_
      exact hcopy (List.dropLast_prefix _) (heq ▸ List.prefix_refl _)
    rw [← hparent.writeError?]
    exact FileTree.writeError?_of_rename? hrenamed

/-- A log file that could not be put aside is where it was. One that was put aside can be made
anew. -/
theorem of_putAside (h : tree.lookup path = .ok (.file content)) :
    (∃ tree', putAside path tree = .error tree' ∧ tree'.lookup path = .ok (.file content)) ∨
      ∃ tree', putAside path tree = .ok tree' ∧ tree'.readToAppend path = .ok [] := by
  have hnames := FileTree.names_ne_nil_of_file (FileTree.node?_of_lookup h)
  let copies := (List.range (keptFiles - 1)).reverse.map (· + 1)
  let moveCopies := copies.foldlM (fun tree number =>
    replaceBy (copyPath path number) (copyPath path (number + 1)) tree) tree
  -- The log file is moved last.
  have hput : putAside path tree = moveCopies >>= replaceBy path (copyPath path 1) := by
    have hsplit : (List.range keptFiles).reverse = copies ++ [0] := by decide
    unfold putAside
    rw [hsplit, List.foldlM_append]
    congr 1
    funext t
    exact List.foldlM_cons.trans (bind_pure _)
  have hcopies (between : List (List Char)) (hbetween : between <+: path.names) :
      SameAt tree (left moveCopies) between := by
    refine left_foldlM (I := fun tree' => SameAt tree tree' between)
      (fun number hnumber tree' hsame => ?_) (.refl tree between)
    obtain ⟨n, -, rfl⟩ := List.mem_map.1 hnumber
    exact hsame.trans (sameAt_replaceBy tree'
      (copyPath_not_begins (Nat.succ_ne_zero n) hnames hbetween)
      (copyPath_not_begins (Nat.succ_ne_zero (n + 1)) hnames hbetween))
  have hkept := (FileTree.reads_eq_of_sameAt hcopies).1.trans h
  rw [hput]
  rcases hmoved : moveCopies with t | t
  · rw [hmoved] at hkept
    exact .inl ⟨t, rfl, hkept⟩
  · rw [hmoved] at hkept
    rcases hreplaced : replaceBy path (copyPath path 1) t with t' | t'
    · refine .inl ⟨t', hreplaced, ?_⟩
      refine (FileTree.reads_eq_of_sameAt fun between hbetween => ?_).1.trans hkept
      refine sameAt_of_replaceBy_error hreplaced ?_
      rintro rfl
      exact copyPath_not_begins Nat.one_ne_zero hnames hbetween (List.prefix_refl _)
    · exact .inr ⟨t', hreplaced, readToAppend_of_replaceBy hkept hreplaced⟩

/-- A line for which nothing is put aside is written to the log file as it is, if this can be
opened. -/
theorem append_of_not_due (hdue : isDue path line tree = false) :
    append path line tree = tree ∨ ∃ old, tree.readToAppend path = .ok old ∧
      append path line tree = tree.extend path old (Text.Utf8.encode line) := by
  unfold append
  rw [hdue, if_neg Bool.false_ne_true]
  dsimp only
  rcases hold : tree.readToAppend path with e | old
  · exact .inl rfl
  · exact .inr ⟨old, rfl, rfl⟩

/-- A line for which the log file is put aside is written to a new one, or is lost. -/
theorem append_of_due (hdue : isDue path line tree = true) :
    (∀ tree', putAside path tree = .error tree' → append path line tree = tree') ∧
      ∀ tree' old, putAside path tree = .ok tree' → tree'.readToAppend path = .ok old →
        append path line tree = tree'.extend path old (Text.Utf8.encode line) := by
  unfold append
  rw [hdue, if_pos rfl]
  constructor
  · intro tree' hput
    rw [hput]
  · intro tree' old hput hold
    rw [hput]
    dsimp only
    rw [hold]

/-- A log file is still a file once a line was written to it. -/
theorem lookup_append (h : tree.lookup path = .ok (.file content)) (line : List Char) :
    ∃ content, (append path line tree).lookup path = .ok (.file content) := by
  cases hdue : isDue path line tree with
  | false =>
    rcases append_of_not_due hdue with hlost | ⟨old, -, hwritten⟩
    · rw [hlost]
      exact ⟨content, h⟩
    · rw [hwritten]
      exact ⟨_, FileTree.lookup_extend h old _⟩
  | true =>
    obtain ⟨hlost, hwritten⟩ := append_of_due hdue
    rcases of_putAside h with ⟨tree', hput, hkept⟩ | ⟨tree', hput, hempty⟩
    · rw [hlost tree' hput]
      exact ⟨content, hkept⟩
    · rw [hwritten tree' [] hput hempty]
      exact ⟨_, FileTree.lookup_extend_of_readToAppend hempty _⟩

/-! ## Other paths -/

/-- A path is not part of a log file: it is neither that of the file, nor does it lead through a
copy that was put aside. -/
structure Apart (path : Path) (names : List (List Char)) : Prop where
  /-- It is another path. -/
  ne : names ≠ path.names
  /-- It does not lead through a copy. -/
  copies : ∀ number, 1 ≤ number → number ≤ keptFiles → ¬ (copyPath path number).names <+: names

instance (path : Path) (names : List (List Char)) : Decidable (Apart path names) :=
  decidable_of_iff (names ≠ path.names ∧ ∀ number ∈ List.range' 1 keptFiles,
      ¬ (copyPath path number).names.isPrefixOf names)
    ⟨fun ⟨hne, hcopies⟩ => ⟨hne, fun number hpos hnumber hcopy =>
        hcopies number (by simp; omega) (List.isPrefixOf_iff_prefix.2 hcopy)⟩,
      fun ⟨hne, hcopies⟩ => ⟨hne, fun number hnumber hcopy =>
        hcopies number (by simp at hnumber; omega) (by simp at hnumber; omega)
          (List.isPrefixOf_iff_prefix.1 hcopy)⟩⟩

/-- What leads to such a path is away from the log file, as far as it is not below it. -/
theorem Apart.awayFrom {names : List (List Char)} (h : Apart path names)
    (hbetween : between <+: names) (hplace : ¬ path.names <+: between) : AwayFrom path between :=
  awayFrom_of_not_begins hplace fun number hpos hnumber hcopy =>
    h.copies number hpos hnumber (hcopy.trans hbetween)

/-- A line changes nothing at paths that are not part of the log file. -/
theorem reads_append_of_apart (h : tree.lookup path = .ok (.file content))
    (hother : Apart path other.names) (line : List Char) :
    (append path line tree).lookup other = tree.lookup other ∧
      (append path line tree).read other = tree.read other := by
  obtain ⟨content', hafter⟩ := lookup_append h line
  exact FileTree.reads_eq_of_alike ⟨content, FileTree.node?_of_lookup h⟩
    ⟨content', FileTree.node?_of_lookup hafter⟩ hother.ne fun between hbetween hplace =>
      sameAt_append (hother.awayFrom hbetween hplace) line tree

/-- A file that is not part of the log file is read as before, whether the log file is there or
not. -/
theorem read_append_of_read (hread : tree.read other = .ok content)
    (hother : Apart path other.names) (line : List Char) :
    (append path line tree).read other = .ok content := by
  obtain ⟨hlookup, -⟩ := FileTree.read_eq_ok_iff.1 hread
  by_cases hfile : ∃ content, tree.lookup path = .ok (.file content)
  · obtain ⟨_, hfile⟩ := hfile
    rw [(reads_append_of_apart hfile hother line).2, hread]
  · -- A log file that is not there is made anew or left out, and no directory above the other.
    have hdue : isDue path line tree = false := by
      unfold isDue
      split
      · exact absurd ⟨_, ‹_›⟩ hfile
      · rfl
    rcases append_of_not_due hdue with hlost | ⟨old, hold, hwritten⟩
    · rw [hlost, hread]
    · rw [hwritten]
      rcases FileTree.readToAppend_eq_ok_iff.1 hold with ⟨hfound, -⟩ | ⟨hmissing, -⟩
      · exact absurd ⟨_, hfound⟩ hfile
      · refine (FileTree.reads_eq_of_sameAt fun between hbetween => ?_).2.trans hread
        refine FileTree.sameAt_extend tree old _ ?_
        rintro rfl
        have harrived := FileTree.walk_of_lookup hlookup hbetween (Ne.symm hother.ne)
        unfold FileTree.lookup at hmissing
        split at hmissing
        · cases hmissing
        · cases hmissing.symm.trans harrived

end SecureForward.Log
