import SecureForward.Proofs.Trust.Matching
import SecureForward.Proofs.Trust.Policy
import SecureForward.Proofs.Trust.Reader

/-!
# What a loaded store holds

A trust store is read line by line, and every line is looked at twice: by the check, which tells its
fields by any blanks, and by the reader, which tells them by single ones and drops the names under
which it has the key already. `record?` is what the reader makes of one line.
`holds_records_of_load` says that nothing is lost on the way and nothing is added: each name of each
record that has to be read is found in the store with its key, and the store has no other names and
keys than those of the records.

`addLine_of_none` and `addLine_of_some` say all that one line can do to a store, and
`addLines_induction` makes an induction on the lines out of it.
-/

namespace SecureForward.TrustStore

open Act (run)
open RecordName (denotes hash)
open SecureForward.Text (lines split trim unifyBreaks words)
open SecureForward.Text.Utf8 (Bytes)

/-- The lines of a text file; bytes that are not UTF-8 have none. -/
def fileLines (bytes : Bytes) : List (List Char) :=
  match Text.Utf8.decode bytes with
  | .ok content => lines (unifyBreaks content)
  | .error _ => []

/-- The entry of the record in a line, if there is one that is understood. -/
def record? (line : List Char) : Option Entry :=
  if isPassedOver (trim line) then none else (Entry.ofLine (trim line)).toOption.join

/-- Whether a line has to hold a record that is understood: it is neither blank nor a comment, and
the key type in its second field is not passed over. -/
def isRequired (line : List Char) : Bool :=
  !isPassedOver (trim line) &&
    match words (trim line) with
    | _ :: keyType :: _ => !isTolerated (.ofList keyType)
    | _ => true

/-- The names of a line: the parts between commas of what stands before the first blank or tab. -/
def hostList (line : List Char) : List String :=
  (split (· = ',') ((split (fun c => c = ' ' || c = '\t') (trim line)).headD [])).map .ofList

variable {path : String} {line : List Char} {record : Entry} {store store' : TrustStore}

/-! ## One line -/

/-- The record of a line that is read is the entry that the line holds. -/
theorem record?_eq_some_iff :
    record? line = some record ↔
      isPassedOver (trim line) = false ∧ Entry.ofLine (trim line) = .ok (some record) := by
  unfold record?
  cases isPassedOver (trim line) with
  | true => simp
  | false => rcases Entry.ofLine (trim line) with e | _ | entry <;> simp [Except.toOption]

/-- The names of a record are those in front of the line. -/
theorem names_of_record? (h : record? line = some record) : record.names = hostList line := by
  have hline := (record?_eq_some_iff.1 h).2
  unfold Entry.ofLine at hline
  unfold hostList
  split at hline
  · rename_i names keyType body rest hfields
    rw [hfields]
    -- Of the ways to read the fields only the last one gives an entry.
    split at hline
    · cases hline
    split at hline
    · cases hline
    split at hline
    · cases hline
    obtain rfl := Option.some.inj (Except.ok.inj hline)
    rfl
  · cases hline

/-- A line that has to hold a record and passes the check holds one. -/
theorem exists_record_of_checkLine {number : Nat} (h : checkLine path number line = .ok ())
    (hrequired : isRequired line = true) : ∃ record, record? line = some record := by
  unfold isRequired at hrequired
  obtain ⟨hpassed, htype⟩ := Bool.and_eq_true_iff.1 hrequired
  have hpassed : isPassedOver (trim line) = false := by simpa using hpassed
  unfold checkLine at h
  dsimp only at h
  rw [if_neg (by simp [hpassed])] at h
  split at h
  · rename_i hwords
    rw [hwords] at htype
    rw [if_neg (by simpa using htype)] at h
    rcases hline : Entry.ofLine (trim line) with e | _ | record
    · rw [hline] at h
      cases h
    · rw [hline] at h
      cases h
    · exact ⟨record, record?_eq_some_iff.2 ⟨hpassed, hline⟩⟩
  · cases h

/-- Each of the lines that are in order passes the check. -/
theorem exists_checkLine_of_checkLines {number : Nat} {content : List (List Char)}
    (h : checkLines path number content = .ok ()) (hline : line ∈ content) :
    ∃ number, checkLine path number line = .ok () :=
  ⟨number, checkLines_eq_ok_iff.1 h line hline⟩

/-- Dropping known names leaves some of the names, and only known ones are missing. -/
theorem dropKnown_spec {known : String → Except Fault Bool} {done names left : List String}
    (h : dropKnown known done names = .ok left) :
    left ⊆ done ++ names ∧ ∀ name ∈ done ++ names, name ∈ left ∨ known name = .ok true := by
  induction hsize : names.length using Nat.strongRecOn generalizing done names with
  | ind size ih =>
    subst hsize
    cases names with
    | nil =>
      rw [dropKnown] at h
      cases h
      rw [List.append_nil]
      exact ⟨List.Subset.refl _, fun _ hname => .inl hname⟩
    | cons name rest =>
      rw [dropKnown] at h
      rcases hknown : known name with e | _ | _
      · rw [hknown] at h
        cases h
      · -- The name stays, and the next one is looked at.
        rw [hknown] at h
        have hrest := ih rest.length (by simp) h rfl
        simpa using hrest
      · -- What stays behind the place reached is shorter by the name that was dropped.
        rw [hknown] at h
        change dropKnown known _ _ = _ at h
        generalize hleft : (done ++ name :: rest).erase name = kept at h
        have hlength : kept.length = done.length + rest.length := by
          rw [← hleft, List.length_erase_of_mem (by simp)]
          simp
        obtain ⟨hsubset, hmissing⟩ := ih (kept.drop (done.length + 1)).length
          (by simp only [List.length_drop, List.length_cons]; omega) h rfl
        rw [List.take_append_drop] at hsubset hmissing
        refine ⟨fun other hother => List.mem_of_mem_erase (hleft ▸ hsubset hother), ?_⟩
        intro other hother
        by_cases hsame : other = name
        · exact .inr (hsame ▸ hknown)
        · exact hmissing other (hleft ▸ (List.mem_erase_of_ne hsame).2 hother)

/-- A line without a record that is understood leaves a store as it is. -/
theorem addLine_of_none (hrecord : record? line = none) (h : store.addLine line = .ok store') :
    store' = store := by
  unfold addLine at h
  dsimp only at h
  split at h
  · exact (Except.ok.inj h).symm
  · rename_i hpassed
    split at h
    · split at h
      · exact (Except.ok.inj h).symm
      · cases h
    · exact (Except.ok.inj h).symm
    · rename_i record hline
      rw [record?_eq_some_iff.2 ⟨by simpa using hpassed, hline⟩] at hrecord
      cases hrecord

/-- A record adds an entry behind the others, with the names under which its key is not known yet;
without such names it adds none. -/
theorem addLine_of_some (hrecord : record? line = some record)
    (h : store.addLine line = .ok store') :
    ∃ left, left ⊆ record.names ∧
      (∀ name ∈ record.names, name ∈ left ∨ store.check name record.key = .ok true) ∧
      store'.entries =
        store.entries ++ if left.isEmpty then [] else [{ record with names := left }] := by
  obtain ⟨hpassed, hline⟩ := record?_eq_some_iff.1 hrecord
  unfold addLine at h
  dsimp only at h
  rw [if_neg (by simp [hpassed]), hline] at h
  dsimp only at h
  rcases hleft : dropKnown (fun name => store.check name record.key) [] record.names with e | left
  · rw [hleft] at h
    cases h
  rw [hleft] at h
  obtain ⟨hsubset, hmissing⟩ := dropKnown_spec hleft
  refine ⟨left, hsubset, hmissing, ?_⟩
  obtain rfl := Except.ok.inj h
  by_cases hempty : left.isEmpty = true
  · rw [if_pos hempty, if_pos hempty, List.append_nil]
  · rw [if_neg hempty, if_neg hempty]

/-! ## All lines -/

/-- What holds before the first line and is kept by each line holds after the last one. -/
theorem addLines_induction {I : List (List Char) → TrustStore → Prop} {start : TrustStore}
    (hstart : I [] start)
    (hstep : ∀ before line store store', I before store → store.addLine line = .ok store' →
      I (before ++ [line]) store')
    {content : List (List Char)} (h : start.addLines content = .ok store) : I content store := by
  suffices hbehind : ∀ before start, I before start → start.addLines content = .ok store →
      I (before ++ content) store from hbehind [] start hstart h
  clear hstart h start
  induction content with
  | nil =>
    intro before start hbefore h
    cases h
    simpa using hbefore
  | cons line content ih =>
    intro before start hbefore h
    rw [addLines] at h
    rcases hline : start.addLine line with e | next
    · rw [hline] at h
      cases h
    · rw [hline] at h
      have hrest := ih (before ++ [line]) next (hstep _ _ _ _ hbefore hline) h
      simpa using hrest

/-- Whether an entry has a key and a name that denotes a host. -/
def Has (store : TrustStore) (host : String) (key : HostKey) : Prop :=
  ∃ entry ∈ store.entries, entry.key = key ∧ ∃ recorded ∈ entry.names,
    denotes recorded host = .ok true

/-- Further entries take nothing away. -/
theorem Has.mono {host : String} {key : HostKey} (h : store.Has host key)
    (hsubset : store.entries ⊆ store'.entries) : store'.Has host key := by
  obtain ⟨entry, hentry, hrest⟩ := h
  exact ⟨entry, hsubset hentry, hrest⟩

/-- A line takes no entry away. -/
theorem entries_subset_of_addLine (h : store.addLine line = .ok store') :
    store.entries ⊆ store'.entries := by
  cases hrecord : record? line with
  | none =>
    rw [addLine_of_none hrecord h]
    exact List.Subset.refl _
  | some record =>
    obtain ⟨left, -, -, hentries⟩ := addLine_of_some hrecord h
    rw [hentries]
    exact List.subset_append_left ..

/-- Once its line is read, each name of a record has the key of the record. -/
theorem has_of_addLine (hrecord : record? line = some record)
    (h : store.addLine line = .ok store') {name : String} (hname : name ∈ record.names) :
    store'.Has name record.key := by
  obtain ⟨left, -, hmissing, hentries⟩ := addLine_of_some hrecord h
  rcases hmissing name hname with hleft | hknown
  · have hne : left.isEmpty = false := by
      cases left with
      | nil => cases hleft
      | cons => rfl
    refine ⟨{ record with names := left }, ?_, rfl, name, hleft, ?_⟩
    · simp [hentries, hne]
    · exact RecordName.denotes_self _
  · -- A name was dropped because an entry that it belongs to has this key.
    obtain ⟨entry, hentry, hof, hkey⟩ := exists_of_check hknown
    obtain ⟨recorded, hrecorded, hdenotes⟩ := Entry.isOf_iff.1 hof
    have hhas : store.Has name record.key := ⟨entry, hentry, hkey, recorded, hrecorded, hdenotes⟩
    exact hhas.mono (entries_subset_of_addLine h)

/-- Of the lines that are read, each name of each record has the key of its record. -/
theorem has_of_addLines {content : List (List Char)} (h : empty.addLines content = .ok store) :
    ∀ line ∈ content, ∀ record, record? line = some record → ∀ name ∈ record.names,
      store.Has name record.key := by
  refine addLines_induction (I := fun before store => ∀ line ∈ before, ∀ record,
    record? line = some record → ∀ name ∈ record.names, store.Has name record.key)
    (fun _ hline => by cases hline) (fun before line store store' ih hadd => ?_) h
  intro line' hline' record hrecord name hname
  rcases List.mem_append.1 hline' with hbefore | hlast
  · exact (ih line' hbefore record hrecord name hname).mono (entries_subset_of_addLine hadd)
  · obtain rfl := List.mem_singleton.1 hlast
    exact has_of_addLine hrecord hadd hname

/-- Each name of an entry, with the key of the entry, is one of a record that was read. -/
theorem exists_line_of_addLines {content : List (List Char)}
    (h : empty.addLines content = .ok store) :
    ∀ entry ∈ store.entries, ∀ name ∈ entry.names, ∃ line ∈ content, ∃ record,
      record? line = some record ∧ name ∈ record.names ∧ record.key = entry.key := by
  refine addLines_induction (I := fun before store => ∀ entry ∈ store.entries, ∀ name ∈ entry.names,
    ∃ line ∈ before, ∃ record, record? line = some record ∧ name ∈ record.names ∧
      record.key = entry.key)
    (fun _ hentry => by cases hentry) (fun before line store store' ih hadd => ?_) h
  have hearlier {entry : Entry} (hentry : entry ∈ store.entries) {name : String}
      (hname : name ∈ entry.names) : ∃ line' ∈ before ++ [line], ∃ record,
        record? line' = some record ∧ name ∈ record.names ∧ record.key = entry.key := by
    obtain ⟨line', hline', hrest⟩ := ih entry hentry name hname
    exact ⟨line', List.mem_append_left _ hline', hrest⟩
  intro entry hentry name hname
  cases hrecord : record? line with
  | none =>
    rw [addLine_of_none hrecord hadd] at hentry
    exact hearlier hentry hname
  | some record =>
    obtain ⟨left, hsubset, -, hentries⟩ := addLine_of_some hrecord hadd
    rw [hentries] at hentry
    rcases List.mem_append.1 hentry with hentry | hnew
    · exact hearlier hentry hname
    · split at hnew
      · cases hnew
      · obtain rfl := List.mem_singleton.1 hnew
        exact ⟨line, by simp, record, hrecord, hsubset hname, rfl⟩

/-! ## The whole file -/

/-- Bytes that are a store have lines that are in order, and the store is read from them. -/
theorem fileLines_of_ofBytes {bytes : Bytes} (h : ofBytes path bytes = .ok store) :
    checkLines path 1 (fileLines bytes) = .ok () ∧
      empty.addLines (fileLines bytes) = .ok store := by
  obtain ⟨content, hdecode, hcheck, hadd⟩ := ofBytes_eq_ok_iff.1 h
  unfold fileLines
  rw [hdecode]
  exact ⟨hcheck, hadd⟩

/-- A loaded store loses nothing and adds nothing. Each line that is neither blank nor a comment,
nor has a key type that is passed over, holds a record, and for each name in front of it the store
has an entry with its key and this name or a hashed form of it. In turn each name of an entry
stands, with the key of the entry, in a line of the file. -/
theorem holds_records_of_load {path : Path} {machine : Machine} {bytes : Bytes}
    (hread : machine.files.read path = .ok bytes)
    (hload : (run (TrustPolicy.loadStore path) machine).1 = .ok store) :
    (∀ line ∈ fileLines bytes, isRequired line = true →
        ∃ record, record? line = some record ∧ record.names = hostList line ∧
          ∀ name ∈ hostList line, ∃ kept ∈ store.entries,
            kept.key.typeName = record.key.typeName ∧ kept.key.encode = record.key.encode ∧
              ∃ recorded ∈ kept.names,
                recorded = name ∨ ∃ salt, hash salt name = .ok recorded) ∧
      ∀ kept ∈ store.entries, ∀ name ∈ kept.names,
        ∃ line ∈ fileLines bytes, ∃ record, record? line = some record ∧ name ∈ hostList line ∧
          record.key = kept.key := by
  have hmachine := TrustPolicy.run_loadStore_snd path machine
  obtain ⟨bytes', -, hread', hbytes, -⟩ :=
    TrustPolicy.run_loadStore_eq_ok_iff.1 (Prod.ext hload hmachine)
  obtain rfl := Except.ok.inj (hread.symm.trans hread')
  obtain ⟨hcheck, hadd⟩ := fileLines_of_ofBytes hbytes
  constructor
  · intro line hline hrequired
    obtain ⟨number, hnumber⟩ := exists_checkLine_of_checkLines hcheck hline
    obtain ⟨record, hrecord⟩ := exists_record_of_checkLine hnumber hrequired
    have hnames := names_of_record? hrecord
    refine ⟨record, hrecord, hnames, fun name hname => ?_⟩
    obtain ⟨kept, hkept, hkey, recorded, hrecorded, hdenotes⟩ :=
      has_of_addLines hadd line hline record hrecord name (hnames ▸ hname)
    refine ⟨kept, hkept, by rw [hkey], by rw [hkey], recorded, hrecorded, ?_⟩
    exact (RecordName.denotes_eq_true_iff.1 hdenotes).imp_right And.right
  · intro kept hkept name hname
    obtain ⟨line, hline, record, hrecord, hmem, hkey⟩ :=
      exists_line_of_addLines hadd kept hkept name hname
    exact ⟨line, hline, record, hrecord, names_of_record? hrecord ▸ hmem, hkey⟩

/-! ## A file for trials -/

/-- The path of the trust store of a trial. -/
def trialPath : Path := { doubled := false, names := ["known".toList] }

/-- A machine on which the trust store has this content. -/
def trialMachine (bytes : Bytes) : Machine :=
  { place := { home := "/", current := "/" }
    files := FileTree.empty.insert trialPath (.file bytes)
    salts := [], clock := "", log := [], console := none, consoleLines := [], logFile := none }

/-- A key of which all bytes are alike. -/
def trialKey (byte : UInt8) : HostKey := .ed25519 (List.replicate 32 byte) (by simp)

/-- The content of a trust store with the records of these entries, one on each line. -/
def trialFile (entries : List Entry) : Bytes :=
  Text.Utf8.encode (entries.flatMap fun entry => entry.toLine ++ ['\n'])

/-- The trust store of a trial is found. -/
theorem read_trialMachine (bytes : Bytes) : (trialMachine bytes).files.read trialPath = .ok bytes :=
  rfl

/-- What the content of the trust store is read as is what is loaded. -/
theorem load_trialMachine {bytes : Bytes}
    (h : (ofBytes (toString trialPath) bytes).toOption = some store) :
    (run (TrustPolicy.loadStore trialPath) (trialMachine bytes)).1 = .ok store := by
  rcases hbytes : ofBytes (toString trialPath) bytes with fault | store'
  · rw [hbytes] at h
    cases h
  · rw [hbytes] at h
    obtain rfl := Option.some.inj h
    rw [TrustPolicy.run_loadStore_eq_ok_iff.2
      ⟨bytes, by decide, read_trialMachine bytes, hbytes, rfl⟩]

/-- Two records of one key, with one name in common and a further name that is looked over since
another one before it is dropped. -/
def overlapping : List Entry :=
  [{ names := ["gate", "mail"], key := trialKey 1 },
    { names := ["mail", "gate", "far"], key := trialKey 1 }]

/-- Of the names of the second record one is dropped, and all are found with its key. -/
theorem holds_records_of_load_trial :
    let store : TrustStore := { entries :=
      [{ names := ["gate", "mail"], key := trialKey 1 },
        { names := ["gate", "far"], key := trialKey 1 }] }
    (run (TrustPolicy.loadStore trialPath) (trialMachine (trialFile overlapping))).1 = .ok store ∧
      (∃ line ∈ fileLines (trialFile overlapping), isRequired line = true ∧
        hostList line = ["mail", "gate", "far"] ∧ ∃ record, record? line = some record ∧
          ∀ name ∈ hostList line, ∃ kept ∈ store.entries, kept.key.encode = record.key.encode ∧
            ∃ recorded ∈ kept.names, recorded = name ∨ ∃ salt, hash salt name = .ok recorded) ∧
      ∃ line ∈ fileLines (trialFile overlapping), ∃ record, record? line = some record ∧
        "far" ∈ hostList line ∧ record.key = trialKey 1 := by
  intro store
  have hload : (run (TrustPolicy.loadStore trialPath) (trialMachine (trialFile overlapping))).1 =
      .ok store := load_trialMachine (by decide +kernel)
  obtain ⟨hlost, hinvented⟩ := holds_records_of_load (read_trialMachine _) hload
  have hline :
      (fileLines (trialFile overlapping))[1]?.map (fun line => (isRequired line, hostList line)) =
      some (true, ["mail", "gate", "far"]) := by decide +kernel
  obtain ⟨line, hline, hfacts⟩ := Option.map_eq_some_iff.1 hline
  obtain ⟨hrequired, hnames⟩ := Prod.mk.inj hfacts
  refine ⟨hload, ⟨line, List.mem_of_getElem? hline, hrequired, hnames, ?_⟩, ?_⟩
  · obtain ⟨record, hrecord, -, hkept⟩ := hlost line (List.mem_of_getElem? hline) hrequired
    refine ⟨record, hrecord, fun name hname => ?_⟩
    obtain ⟨kept, hmem, -, hrest⟩ := hkept name hname
    exact ⟨kept, hmem, hrest⟩
  · exact hinvented { names := ["gate", "far"], key := trialKey 1 } (by simp [store]) "far"
      (by simp)

end SecureForward.TrustStore
