import SecureForward.Files.Tree

/-!
# Files that are written, taken away and moved

Each of these changes concerns a few places of a file tree and what stands below them. At every
other place the tree holds the same under the same rights, which is what `SameAt` says. A walk that
meets such places only ends as before (`walk_eq_of_sameAt`), and it may also meet a file whose
content has changed, since it cannot go on below it (`walk_eq_of_alike`). So a file that is written
changes nothing at other paths, and is itself found with its new content (`lookup_extend`).
-/

namespace SecureForward.FileTree

open SecureForward.Text.Utf8 (Bytes)

variable {tree tree' tree'' : FileTree} {path source target : Path} {node : Node}
  {above between names place : List (List Char)} {content old : Bytes}

/-! ## Places -/

/-- Two trees hold the same at a place, under the same rights. -/
structure SameAt (tree tree' : FileTree) (names : List (List Char)) : Prop where
  /-- The same stands there. -/
  node : tree'.node? names = tree.node? names
  /-- The user has the same rights. -/
  may : ∀ right, tree'.may right names = tree.may right names
  /-- It stands on a device that can be written to, or not, as before. -/
  frozen : tree'.frozen.contains names = tree.frozen.contains names

/-- A tree is the same as itself. -/
theorem SameAt.refl (tree : FileTree) (names : List (List Char)) : SameAt tree tree names :=
  ⟨rfl, fun _ => rfl, rfl⟩

/-- What stays the same twice stays the same. -/
theorem SameAt.trans (h : SameAt tree tree' names) (h' : SameAt tree' tree'' names) :
    SameAt tree tree'' names :=
  ⟨h'.node.trans h.node, fun right => (h'.may right).trans (h.may right), h'.frozen.trans h.frozen⟩

/-- How much room there is has no say in it. -/
theorem SameAt.withRoom (h : SameAt tree tree' names) (room : Option Nat) :
    SameAt tree { tree' with room } names :=
  ⟨h.node, h.may, h.frozen⟩

/-- A place can be written to as before. -/
theorem SameAt.writeError? (h : SameAt tree tree' names) :
    tree'.writeError? names = tree.writeError? names := by
  unfold FileTree.writeError?
  rw [h.frozen, h.may]

/-- Below the root, only what was put somewhere is found there. -/
theorem node?_put (tree : FileTree) (names : List (List Char)) (node : Node) (hne : place ≠ []) :
    (tree.put names node).node? place = if place = names then some node else tree.node? place := by
  unfold node? put
  rw [if_neg hne, if_neg hne]
  by_cases h : place = names
  · simp [h]
  · rw [if_neg h, List.find?_cons_of_neg (by simpa using Ne.symm h), List.find?_filter]
    congr 2
    funext entry
    by_cases hentry : entry.1 = place
    · simp [hentry, h]
    · simp [hentry]

/-- Putting a node somewhere changes nothing elsewhere. -/
theorem sameAt_put (tree : FileTree) (node : Node) (hne : place ≠ names) :
    SameAt tree (tree.put names node) place := by
  refine ⟨?_, fun _ => rfl, rfl⟩
  by_cases hroot : place = []
  · rw [hroot]
    rfl
  · rw [node?_put tree names node hroot, if_neg hne]

/-- Writing a file changes nothing elsewhere. -/
theorem sameAt_extend (tree : FileTree) (old bytes : Bytes) (hne : place ≠ path.names) :
    SameAt tree (tree.extend path old bytes) place :=
  (sameAt_put tree _ hne).withRoom _

/-- Taking something away changes nothing elsewhere. -/
theorem sameAt_erase (tree : FileTree) (hne : place ≠ path.names) :
    SameAt tree (tree.erase path) place where
  node := by
    unfold node? erase
    split
    · rfl
    · rw [List.find?_filter]
      congr 2
      funext entry
      by_cases hentry : entry.1 = place
      · simp [hentry, hne]
      · simp [hentry]
  may right := by
    unfold may erase
    rw [Bool.eq_iff_iff]
    simp [hne]
  frozen := rfl

/-- Only a file that can be taken out of its directory is taken away. -/
theorem remove?_eq_some_iff : tree.remove? path = some tree' ↔
    ∃ content, tree.lookup path = .ok (.file content) ∧ tree.isLoose path = true ∧
      { tree.erase path with room := tree.room.map (· + content.length) } = tree' := by
  unfold remove?
  rcases tree.lookup path with e | _ | content
  · simp
  · simp
  · by_cases hloose : tree.isLoose path = true <;> simp [hloose]

/-- A file that is taken away changes nothing elsewhere. -/
theorem sameAt_remove? (h : tree.remove? path = some tree') (hne : place ≠ path.names) :
    SameAt tree tree' place := by
  obtain ⟨content, -, -, rfl⟩ := remove?_eq_some_iff.1 h
  exact (sameAt_erase tree hne).withRoom _

/-- Taking something away sets no bound to what can be written. -/
theorem room_remove? (h : tree.remove? path = some tree') (hroom : tree.room = none) :
    tree'.room = none := by
  obtain ⟨content, -, -, rfl⟩ := remove?_eq_some_iff.1 h
  exact Option.map_eq_none_iff.2 hroom

/-- The tree in which what stands at `source` stands at `target`. -/
def withMoved (tree : FileTree) (source target : Path) : FileTree :=
  { tree with
    entries := tree.entries.map fun entry => (moved source.names target.names entry.1, entry.2)
    withheld := tree.withheld.map fun entry => (moved source.names target.names entry.1, entry.2)
    frozen := tree.frozen.map (moved source.names target.names) }

/-- Only what can be taken out of its directory is moved, and only to where nothing stands. -/
theorem rename?_eq_some_iff : tree.rename? source target = some tree' ↔
    tree.lookup target = .error .missing ∧ tree.isLoose source = true ∧
      tree.withMoved source target = tree' := by
  unfold rename?
  split
  · rename_i hlookup
    by_cases hloose : tree.isLoose source = true <;> simp [hlookup, hloose, withMoved]
  · rename_i hlookup
    exact ⟨nofun, fun h => absurd h.1 hlookup⟩

/-- A place that is neither below the one that something is moved from nor below the one that it is
moved to is that of something else. -/
theorem moved_eq_iff {start goal : List (List Char)} (hstart : ¬ start <+: place)
    (hgoal : ¬ goal <+: place) : moved start goal names = place ↔ names = place := by
  unfold moved
  split
  · rename_i hbegins
    rw [List.isPrefixOf_iff_prefix] at hbegins
    constructor
    · rintro rfl
      exact absurd (List.prefix_append _ _) hgoal
    · rintro rfl
      exact absurd hbegins hstart
  · exact Iff.rfl

/-- What is moved leaves its place. -/
theorem moved_ne {start goal : List (List Char)} (hgoal : ¬ goal <+: start) :
    moved start goal names ≠ start := by
  intro hnames
  unfold moved at hnames
  split at hnames
  · exact hgoal (hnames ▸ List.prefix_append _ _)
  · rename_i hbegins
    rw [hnames, List.isPrefixOf_iff_prefix] at hbegins
    exact hbegins (List.prefix_refl _)

/-- What is moved changes nothing at other places. -/
theorem sameAt_rename? (h : tree.rename? source target = some tree')
    (hsource : ¬ source.names <+: place) (htarget : ¬ target.names <+: place) :
    SameAt tree tree' place := by
  obtain ⟨-, -, rfl⟩ := rename?_eq_some_iff.1 h
  have hmoved (names : List (List Char)) :
      moved source.names target.names names = place ↔ names = place := moved_eq_iff hsource htarget
  refine ⟨?_, fun right => ?_, ?_⟩
  · have hfind : (fun entry : List (List Char) × Node => entry.1 == place) ∘
        (fun entry : List (List Char) × Node =>
          (moved source.names target.names entry.1, entry.2)) =
          fun entry : List (List Char) × Node => entry.1 == place := by
      funext entry
      rw [Bool.eq_iff_iff]
      simp [hmoved]
    unfold node? withMoved
    dsimp only
    rw [List.find?_map, hfind, Option.map_map]
    rfl
  · unfold may withMoved
    rw [Bool.eq_iff_iff]
    simp [hmoved]
  · unfold withMoved
    rw [Bool.eq_iff_iff]
    simp [hmoved]

/-- What is moved takes no room. -/
theorem room_rename? (h : tree.rename? source target = some tree') : tree'.room = tree.room := by
  obtain ⟨-, -, rfl⟩ := rename?_eq_some_iff.1 h
  rfl

/-- Nothing is left where something was moved away. -/
theorem node?_rename? (h : tree.rename? source target = some tree') (hroot : source.names ≠ [])
    (htarget : ¬ target.names <+: source.names) : tree'.node? source.names = none := by
  obtain ⟨-, -, rfl⟩ := rename?_eq_some_iff.1 h
  unfold node? withMoved
  rw [if_neg hroot, Option.map_eq_none_iff, List.find?_eq_none]
  intro entry hentry
  obtain ⟨entry, -, rfl⟩ := List.mem_map.1 hentry
  simpa using moved_ne htarget

/-- What is moved may be taken out of its directory. -/
theorem writeError?_of_rename? (h : tree.rename? source target = some tree') :
    tree.writeError? source.names.dropLast = none := by
  obtain ⟨-, hloose, -⟩ := rename?_eq_some_iff.1 h
  exact Option.isNone_iff_eq_none.1 (Bool.and_eq_true_iff.1 hloose).1

/-! ## Walks -/

/-- A walk without steps arrives where something stands. -/
theorem walk_nil_eq_ok_iff : tree.walk above [] = .ok node ↔ tree.node? above = some node := by
  rw [walk]
  cases tree.node? above <;> simp

/-- A walk takes a step from a directory that it may go through. -/
theorem walk_cons_eq_ok_iff {name : List Char} :
    tree.walk above (name :: names) = .ok node ↔
      tree.node? above = some .directory ∧ tree.may .search above = true ∧
        (Text.Utf8.encode name).length ≤ nameLimit ∧
        tree.walk (above ++ [name]) names = .ok node := by
  rw [walk]
  rcases tree.node? above with _ | _ | _
  · simp
  · simp
  · by_cases hmay : tree.may .search above = true
    · by_cases hlength : nameLimit < (Text.Utf8.encode name).length
      · simp [hmay, hlength, Nat.not_le_of_lt hlength]
      · simp [hmay, hlength, Nat.le_of_not_lt hlength]
    · simp [hmay]

/-- A walk that arrives ends at what stands there. -/
theorem node?_of_walk (h : tree.walk above names = .ok node) :
    tree.node? (above ++ names) = some node := by
  induction names generalizing above with
  | nil =>
    rw [List.append_nil]
    exact walk_nil_eq_ok_iff.1 h
  | cons name names ih =>
    obtain ⟨-, -, -, hrest⟩ := walk_cons_eq_ok_iff.1 h
    simpa using ih hrest

/-- A walk that arrives goes through directories. -/
theorem walk_of_append {more : List (List Char)} (hmore : more ≠ [])
    (h : tree.walk above (between ++ more) = .ok node) :
    tree.walk above between = .ok .directory := by
  induction between generalizing above with
  | nil =>
    obtain ⟨name, names, rfl⟩ := List.exists_cons_of_ne_nil hmore
    exact walk_nil_eq_ok_iff.2 (walk_cons_eq_ok_iff.1 h).1
  | cons name between ih =>
    obtain ⟨hnode, hmay, hlength, hrest⟩ := walk_cons_eq_ok_iff.1 h
    exact walk_cons_eq_ok_iff.2 ⟨hnode, hmay, hlength, ih hrest⟩

/-- A walk that arrives does so as before if all is the same on the way, and finds what stands at
its end now. -/
theorem walk_of_sameAt {node' : Node} (h : tree.walk above names = .ok node)
    (hsame : ∀ between, between <+: above ++ names → between ≠ above ++ names →
      SameAt tree tree' between)
    (hend : tree'.node? (above ++ names) = some node') : tree'.walk above names = .ok node' := by
  induction names generalizing above with
  | nil =>
    rw [List.append_nil] at hend
    exact walk_nil_eq_ok_iff.2 hend
  | cons name names ih =>
    obtain ⟨hnode, hmay, hlength, hrest⟩ := walk_cons_eq_ok_iff.1 h
    have habove := hsame above (List.prefix_append ..) (by simp)
    refine walk_cons_eq_ok_iff.2 ⟨habove.node.trans hnode, (habove.may _).trans hmay, hlength, ?_⟩
    exact ih hrest (by simpa using hsame) (by simpa using hend)

/-- A walk ends as before if all is the same on the way but for the content of a file at one place,
where it does not end. -/
theorem walk_eq_of_alike (hfile : ∃ content, tree.node? place = some (.file content))
    (hfile' : ∃ content, tree'.node? place = some (.file content)) (hend : above ++ names ≠ place)
    (habove : ¬ place <+: above ∨ above = place)
    (hsame : ∀ between, between <+: above ++ names → ¬ place <+: between →
      SameAt tree tree' between) :
    tree'.walk above names = tree.walk above names := by
  induction names generalizing above with
  | nil =>
    rw [List.append_nil] at hend hsame
    rw [walk, walk, (hsame above (List.prefix_refl above) (habove.resolve_right hend)).node]
  | cons name names ih =>
    rcases habove with habove | rfl
    · have hhere := hsame above (List.prefix_append ..) habove
      have hnext : tree'.walk (above ++ [name]) names = tree.walk (above ++ [name]) names := by
        refine ih (by simpa using hend) ?_ (by simpa using hsame)
        by_cases hplace : place <+: above ++ [name]
        · exact .inr ((List.prefix_concat_iff.1 hplace).resolve_right habove).symm
        · exact .inl hplace
      rw [walk, walk, hhere.node, hhere.may, hnext]
    · -- The walk goes on below the file, which it cannot do with any content.
      obtain ⟨content, hcontent⟩ := hfile
      obtain ⟨content', hcontent'⟩ := hfile'
      rw [walk, walk, hcontent, hcontent']

/-- A walk ends as before if all is the same on the way. -/
theorem walk_eq_of_sameAt
    (hsame : ∀ between, between <+: above ++ names → SameAt tree tree' between) :
    tree'.walk above names = tree.walk above names := by
  induction names generalizing above with
  | nil => rw [walk, walk, (hsame above (List.prefix_append ..)).node]
  | cons name names ih =>
    have hhere := hsame above (List.prefix_append ..)
    rw [walk, walk, hhere.node, hhere.may, ih (by simpa using hsame)]

/-- A walk that arrives at a directory goes on with one more step from there. -/
theorem walk_concat (h : tree.walk above names = .ok .directory) (last : List Char) :
    tree.walk above (names ++ [last]) =
      if !tree.may .search (above ++ names) then .error .denied
      else if nameLimit < (Text.Utf8.encode last).length then .error .tooLong
      else (tree.node? (above ++ names ++ [last])).elim (.error .missing) .ok := by
  induction names generalizing above with
  | nil =>
    rw [List.nil_append, List.append_nil, walk, walk_nil_eq_ok_iff.1 h]
    rfl
  | cons name names ih =>
    obtain ⟨hnode, hmay, hlength, hrest⟩ := walk_cons_eq_ok_iff.1 h
    rw [List.cons_append, walk, hnode]
    dsimp only
    rw [hmay, if_neg (by decide), if_neg (Nat.not_lt_of_le hlength), ih hrest]
    simp only [List.append_assoc, List.singleton_append]

/-- A walk along some names arrives at a directory from which it may take one more step. -/
structure Enters (tree : FileTree) (names : List (List Char)) (last : List Char) : Prop where
  /-- A directory stands there. -/
  walk_eq : tree.walk [] names = .ok .directory
  /-- The user may go through it. -/
  search : tree.may .search names = true
  /-- The name of the step is not too long. -/
  length_le : (Text.Utf8.encode last).length ≤ nameLimit

/-- The step leads to what stands there, if anything does. -/
theorem Enters.walk_concat_eq {last : List Char} (h : tree.Enters names last) :
    tree.walk [] (names ++ [last]) = (tree.node? (names ++ [last])).elim (.error .missing) .ok := by
  rw [walk_concat h.walk_eq, List.nil_append, h.search, if_neg (by decide),
    if_neg (Nat.not_lt_of_le h.length_le)]

/-- The step may be taken as before if all is the same on the way to it. -/
theorem Enters.of_sameAt {last : List Char} (h : tree.Enters names last)
    (hsame : ∀ between, between <+: names → SameAt tree tree' between) :
    tree'.Enters names last where
  walk_eq := (walk_eq_of_sameAt (by simpa using hsame)).trans h.walk_eq
  search := ((hsame names (List.prefix_refl _)).may _).trans h.search
  length_le := h.length_le

/-- A step from a directory that leads somewhere, or to where nothing stands, may be taken. -/
theorem enters_of_walk {last : List Char} (hwalk : tree.walk [] names = .ok .directory)
    (h : (∃ node, tree.walk [] (names ++ [last]) = .ok node) ∨
      tree.walk [] (names ++ [last]) = .error .missing) : tree.Enters names last := by
  rw [walk_concat hwalk, List.nil_append] at h
  by_cases hmay : tree.may .search names = true
  · by_cases hlength : nameLimit < (Text.Utf8.encode last).length
    · simp [hmay, hlength] at h
    · exact ⟨hwalk, hmay, Nat.le_of_not_lt hlength⟩
  · simp [hmay] at h

/-! ## Paths -/

/-- A path leads to what a walk along its names arrives at, if it is not too long. -/
theorem lookup_eq_ok_iff : tree.lookup path = .ok node ↔
    (Text.Utf8.encode path.toList).length ≤ pathLimit ∧ tree.walk [] path.names = .ok node := by
  unfold lookup
  by_cases hlength : pathLimit < (Text.Utf8.encode path.toList).length
  · simp only [if_pos hlength, reduceCtorEq, false_iff]
    omega
  · rw [if_neg hlength]
    exact ⟨fun h => ⟨Nat.le_of_not_lt hlength, h⟩, fun h => h.2⟩

/-- What a path leads to stands under its names. -/
theorem node?_of_lookup (h : tree.lookup path = .ok node) : tree.node? path.names = some node :=
  node?_of_walk (lookup_eq_ok_iff.1 h).2

/-- The way to what a path leads to goes through directories. -/
theorem walk_of_lookup (h : tree.lookup path = .ok node) (hbegins : between <+: path.names)
    (hne : between ≠ path.names) : tree.walk [] between = .ok .directory := by
  obtain ⟨more, hmore⟩ := hbegins
  refine @walk_of_append tree node [] between more ?_ ?_
  · rintro rfl
    exact hne (by rw [← hmore, List.append_nil])
  · rw [hmore]
    exact (lookup_eq_ok_iff.1 h).2

/-- A file is not the root. -/
theorem names_ne_nil_of_file (h : tree.node? names = some (.file content)) : names ≠ [] := by
  rintro rfl
  cases h

/-- A file is read where a path leads to it, if the user may read it. -/
theorem read_eq_ok_iff : tree.read path = .ok content ↔
    tree.lookup path = .ok (.file content) ∧ tree.may .read path.names = true := by
  unfold read
  rcases tree.lookup path with e | _ | _
  · simp
  · by_cases hmay : tree.may .read path.names = true <;> simp [hmay]
  · by_cases hmay : tree.may .read path.names = true <;> simp [hmay]

/-- A path leads to the same as before, and it is read as before, if all is the same on the way to
it. -/
theorem reads_eq_of_sameAt (hsame : ∀ between, between <+: path.names → SameAt tree tree' between) :
    tree'.lookup path = tree.lookup path ∧ tree'.read path = tree.read path := by
  have hlookup : tree'.lookup path = tree.lookup path := by
    unfold lookup
    rw [walk_eq_of_sameAt (by simpa using hsame)]
  refine ⟨hlookup, ?_⟩
  unfold read
  rw [hlookup, (hsame path.names (List.prefix_refl _)).may]

/-- A path leads to the same as before, and it is read as before, if all is the same on the way to
it but for the content of another file. -/
theorem reads_eq_of_alike (hfile : ∃ content, tree.node? place = some (.file content))
    (hfile' : ∃ content, tree'.node? place = some (.file content)) (hne : path.names ≠ place)
    (hsame : ∀ between, between <+: path.names → ¬ place <+: between → SameAt tree tree' between) :
    tree'.lookup path = tree.lookup path ∧ tree'.read path = tree.read path := by
  obtain ⟨content, hcontent⟩ := hfile
  have hroot : ¬ place <+: [] := fun h => names_ne_nil_of_file hcontent (List.prefix_nil.1 h)
  have hlookup : tree'.lookup path = tree.lookup path := by
    unfold lookup
    rw [walk_eq_of_alike ⟨content, hcontent⟩ hfile' (by simpa using hne) (.inl hroot)
      (by simpa using hsame)]
  refine ⟨hlookup, ?_⟩
  unfold read
  rw [hlookup]
  rcases harrived : tree.lookup path with e | node
  · rfl
  · -- What the path leads to does not stand below a file.
    have hplace : ¬ place <+: path.names := fun hbegins => by
      cases hcontent.symm.trans (node?_of_walk (walk_of_lookup harrived hbegins (Ne.symm hne)))
    rw [(hsame path.names (List.prefix_refl _) hplace).may]

/-! ## Files that are written -/

/-- What there is room for is a beginning of it. -/
theorem fitting_prefix (tree : FileTree) (bytes : Bytes) : tree.fitting bytes <+: bytes := by
  unfold fitting
  cases tree.room with
  | none => exact List.prefix_refl bytes
  | some room => exact List.take_prefix room bytes

/-- Where there is room, all of it is written. -/
theorem fitting_of_fits {bytes : Bytes} (h : tree.lacksRoom bytes = false) :
    tree.fitting bytes = bytes := by
  unfold lacksRoom at h
  unfold fitting
  cases hroom : tree.room with
  | none => rfl
  | some room =>
    rw [hroom] at h
    exact List.take_of_length_le (by simpa using h)

/-- Where there is no room for all, not all is written. -/
theorem fitting_ne_of_lacksRoom {bytes : Bytes} (h : tree.lacksRoom bytes = true) :
    tree.fitting bytes ≠ bytes := by
  unfold lacksRoom at h
  unfold fitting
  cases hroom : tree.room with
  | none =>
    rw [hroom] at h
    cases h
  | some room =>
    rw [hroom] at h
    intro hwhole
    have hlength := congrArg List.length hwhole
    change (bytes.take room).length = _ at hlength
    simp only [Option.any_some, decide_eq_true_eq] at h
    rw [List.length_take] at hlength
    omega

/-- A file that was found is found with what was added to it. -/
theorem lookup_extend (h : tree.lookup path = .ok (.file content)) (old bytes : Bytes) :
    (tree.extend path old bytes).lookup path = .ok (.file (old ++ tree.fitting bytes)) := by
  obtain ⟨hlength, hwalk⟩ := lookup_eq_ok_iff.1 h
  refine lookup_eq_ok_iff.2 ⟨hlength, walk_of_sameAt hwalk ?_ ?_⟩
  · rintro between - hne
    exact sameAt_extend tree old bytes (by simpa using hne)
  · exact (node?_put tree _ _ (names_ne_nil_of_file (node?_of_lookup h))).trans (if_pos rfl)

/-- A file that is written is read with what was added to it. -/
theorem read_extend (h : tree.read path = .ok content) (old bytes : Bytes) :
    (tree.extend path old bytes).read path = .ok (old ++ tree.fitting bytes) :=
  read_eq_ok_iff.2 ⟨lookup_extend (read_eq_ok_iff.1 h).1 old bytes, (read_eq_ok_iff.1 h).2⟩

/-- A file that is written changes nothing at other paths. -/
theorem reads_extend_of_ne {other : Path} (h : tree.lookup path = .ok (.file content))
    (old bytes : Bytes) (hne : other.names ≠ path.names) :
    (tree.extend path old bytes).lookup other = tree.lookup other ∧
      (tree.extend path old bytes).read other = tree.read other := by
  refine reads_eq_of_alike ⟨content, node?_of_lookup h⟩
    ⟨_, node?_of_lookup (lookup_extend h old bytes)⟩ hne fun between _ hbetween => ?_
  exact sameAt_extend tree old bytes (by rintro rfl; exact hbetween (List.prefix_refl _))

/-- A file is read to be updated only if it can be read. -/
theorem read_of_readToUpdate (h : tree.readToUpdate path = .ok content) :
    tree.read path = .ok content := by
  unfold readToUpdate at h
  split at h
  · cases h
  · cases h
  · split at h
    · cases h
    · exact h

/-- A file is appended to if it is there and can be written to, or if its directory can. -/
theorem readToAppend_eq_ok_iff : tree.readToAppend path = .ok old ↔
    (tree.lookup path = .ok (.file old) ∧ tree.writeError? path.names = none) ∨
      (tree.lookup path = .error .missing ∧ old = [] ∧
        tree.walk [] path.names.dropLast = .ok .directory ∧
        tree.writeError? path.names.dropLast = none) := by
  unfold readToAppend
  split
  · rename_i hlookup
    simp [hlookup]
  · rename_i content hlookup
    rw [hlookup]
    cases tree.writeError? path.names <;> simp
  · rename_i hlookup
    rw [hlookup]
    dsimp only
    split
    · cases tree.writeError? path.names.dropLast <;> simp [*, eq_comm]
    · simp [*]
    · simp [*]
  · rename_i e hmissing hlookup
    rw [hlookup]
    simp only [reduceCtorEq, false_and, false_or, Except.error.injEq, false_iff, not_and]
    exact fun h => absurd h hmissing

/-- What stands above a place is not this place. -/
theorem ne_of_prefix_dropLast (hne : names ≠ []) (h : between <+: names.dropLast) :
    between ≠ names := by
  rintro rfl
  have hlength := h.length_le
  have hpos := List.length_pos_iff.2 hne
  rw [List.length_dropLast] at hlength
  omega

/-- A file that can be appended to is found with what was added to it. -/
theorem lookup_extend_of_readToAppend (h : tree.readToAppend path = .ok old) (bytes : Bytes) :
    (tree.extend path old bytes).lookup path = .ok (.file (old ++ tree.fitting bytes)) := by
  rcases readToAppend_eq_ok_iff.1 h with ⟨hfile, -⟩ | ⟨hmissing, -, hparent, -⟩
  · exact lookup_extend hfile old bytes
  · -- The file is made in its directory.
    unfold lookup at hmissing ⊢
    split at hmissing
    · cases hmissing
    · rename_i hlength
      rw [if_neg hlength]
      have hnames : path.names ≠ [] := by
        intro hnil
        rw [hnil] at hmissing
        cases hmissing
      have hsplit := List.dropLast_concat_getLast hnames
      have henters : tree.Enters path.names.dropLast (path.names.getLast hnames) :=
        enters_of_walk hparent (.inr (hsplit.symm ▸ hmissing))
      have henters' := henters.of_sameAt fun between hbetween =>
        sameAt_extend tree old bytes (ne_of_prefix_dropLast hnames hbetween)
      have hend : (tree.extend path old bytes).node? path.names =
          some (.file (old ++ tree.fitting bytes)) :=
        (node?_put tree _ _ hnames).trans (if_pos rfl)
      have hwalk := henters'.walk_concat_eq
      rw [hsplit, hend] at hwalk
      exact hwalk

/-- A file that is gone from its directory can be made anew there. -/
theorem readToAppend_of_gone (h : tree.lookup path = .ok (.file content))
    (hsame : ∀ between, between <+: path.names → between ≠ path.names → SameAt tree tree' between)
    (hgone : tree'.node? path.names = none)
    (hwrite : tree.writeError? path.names.dropLast = none) : tree'.readToAppend path = .ok [] := by
  obtain ⟨hlength, hwalk⟩ := lookup_eq_ok_iff.1 h
  have hnames := names_ne_nil_of_file (node?_of_lookup h)
  have hsplit := List.dropLast_concat_getLast hnames
  have habove (between : List (List Char)) (hbetween : between <+: path.names.dropLast) :
      SameAt tree tree' between :=
    hsame between (hbetween.trans (List.dropLast_prefix _)) (ne_of_prefix_dropLast hnames hbetween)
  have hparent : tree.walk [] path.names.dropLast = .ok .directory :=
    walk_of_lookup h (List.dropLast_prefix _)
      (ne_of_prefix_dropLast hnames (List.prefix_refl _))
  have henters' : tree'.Enters path.names.dropLast (path.names.getLast hnames) :=
    (enters_of_walk hparent (.inl ⟨_, hsplit.symm ▸ hwalk⟩)).of_sameAt habove
  have hmissing : tree'.walk [] path.names = .error .missing := by
    have hlast := henters'.walk_concat_eq
    rw [hsplit, hgone] at hlast
    exact hlast
  refine readToAppend_eq_ok_iff.2 (.inr ⟨?_, rfl, henters'.walk_eq, ?_⟩)
  · unfold lookup
    rw [if_neg (Nat.not_lt_of_le hlength), hmissing]
  · rw [(habove _ (List.prefix_refl _)).writeError?, hwrite]

/-! ## Asking for files -/

/-- Where a file stands, it is found. -/
theorem lookup_of_isFile (h : tree.isFile path = .ok true) :
    '\x00' ∉ path.toList ∧ ∃ content, tree.lookup path = .ok (.file content) := by
  unfold isFile at h
  split at h
  · cases h
  · rename_i hnull
    refine ⟨by simpa using hnull, ?_⟩
    split at h
    · exact ⟨_, ‹_›⟩
    · cases h
    · cases h
    · cases h
    · cases h

/-- A walk that does not arrive ends where nothing stands, below a file, at a directory that may not
be gone through, or at a name that is too long. -/
theorem of_walk_error {e : AccessError} (h : tree.walk above names = .error e) :
    e = .missing ∨ e = .notDirectory ∨ e = .denied ∨ e = .tooLong := by
  induction names generalizing above with
  | nil =>
    rw [walk] at h
    rcases hnode : tree.node? above with _ | node
    · rw [hnode] at h
      exact .inl (Except.error.inj h).symm
    · rw [hnode] at h
      cases h
  | cons name names ih =>
    rw [walk] at h
    split at h
    · exact .inl (Except.error.inj h).symm
    · exact .inr (.inl (Except.error.inj h).symm)
    · split at h
      · exact .inr (.inr (.inl (Except.error.inj h).symm))
      · split at h
        · exact .inr (.inr (.inr (Except.error.inj h).symm))
        · exact ih h

/-- It cannot be told whether a file stands at a path only because a name in it is too long or
because a directory on the way may not be gone through. -/
theorem of_isFile_error {e : AccessError} (h : tree.isFile path = .error e) :
    e = .tooLong ∨ e = .denied := by
  unfold isFile at h
  split at h
  · cases h
  · split at h
    · cases h
    · cases h
    · cases h
    · cases h
    · rename_i hmissing hdirectory hlookup
      obtain rfl := Except.error.inj h
      unfold lookup at hlookup
      split at hlookup
      · exact .inl (Except.error.inj hlookup).symm
      · rcases of_walk_error hlookup with rfl | rfl | rfl | rfl
        · exact absurd rfl hmissing
        · exact absurd rfl hdirectory
        · exact .inr rfl
        · exact .inl rfl

end SecureForward.FileTree
