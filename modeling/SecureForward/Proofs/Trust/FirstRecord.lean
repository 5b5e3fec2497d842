import SecureForward.Proofs.Trust.Records
import SecureForward.Proofs.Trust.Verify

/-!
# Which record counts

A file may hold several records of one host and one key type. Of these the first counts, and the
names that the reader drops make no difference to this (`firstKey?_of_addLines`). So a host that
shows the key of a record of its own is accepted exactly when no other key stands in the first such
record (`verify_of_record`); `later_record_refused` is a host that is refused with the key of its
second record.
-/

namespace SecureForward.TrustStore

open SecureForward.Text.Utf8 (Bytes)
open RecordName (IsWellFormed)

/-- The entries of the records in a file, without regard to what is known already. -/
def fileRecords (bytes : Bytes) : List Entry :=
  (fileLines bytes).filterMap record?

/-- The key of a type in the first of these entries that a host has for this type. -/
def firstKey? (host typeName : String) (entries : List Entry) : Option HostKey :=
  keyOfType? (entries.filter (Entry.isOf host)) typeName

variable {host typeName : String} {store store' : TrustStore}

/-- The key is sought among the later entries if the earlier ones have none. -/
theorem firstKey?_append (entries others : List Entry) :
    firstKey? host typeName (entries ++ others) =
      (firstKey? host typeName entries).or (firstKey? host typeName others) := by
  unfold firstKey?
  rw [List.filter_append, keyOfType?_append]

/-- The key is that of the first entry of the host and the type. -/
theorem firstKey?_eq_find? (entries : List Entry) :
    firstKey? host typeName entries =
      (entries.find? fun entry => entry.isOf host && entry.key.typeName == typeName).map
        (·.key) := by
  unfold firstKey? keyOfType?
  rw [List.find?_filter]
  congr 2
  funext entry
  rw [Bool.eq_iff_iff]
  simp

/-- Alone, an entry gives its key for its type to each host that it is of. -/
theorem firstKey?_singleton (entry : Entry) :
    firstKey? host typeName [entry] =
      if entry.isOf host = true ∧ entry.key.typeName = typeName then some entry.key else none := by
  rw [firstKey?_eq_find?, List.find?_singleton]
  by_cases h : entry.isOf host = true ∧ entry.key.typeName = typeName
  · rw [if_pos h, if_pos (by simp [h])]
    rfl
  · rw [if_neg h, if_neg (by simpa using h)]
    rfl

/-- An entry of a host is found for its type, or an earlier one is. -/
theorem firstKey?_ne_none {entries : List Entry} {entry : Entry} (hentry : entry ∈ entries)
    (hof : entry.isOf host = true) : firstKey? host entry.key.typeName entries ≠ none := by
  intro hnone
  rw [firstKey?_eq_find?, Option.map_eq_none_iff, List.find?_eq_none] at hnone
  exact hnone entry hentry (by simp [hof])

/-- A record without the names under which its key is known is one of the same hosts as before, but
for those for which a key of its type is found in the store. -/
theorem isOf_kept {record : Entry} {left : List String} (hsubset : left ⊆ record.names)
    (hmissing : ∀ name ∈ record.names, name ∈ left ∨ store.check name record.key = .ok true)
    (hbefore : firstKey? host record.key.typeName store.entries = none) :
    Entry.isOf host { record with names := left } = record.isOf host := by
  rw [Bool.eq_iff_iff, Entry.isOf_iff, Entry.isOf_iff]
  constructor
  · rintro ⟨name, hname, hdenotes⟩
    exact ⟨name, hsubset hname, hdenotes⟩
  · rintro ⟨name, hname, hdenotes⟩
    rcases hmissing name hname with hleft | hknown
    · exact ⟨name, hleft, hdenotes⟩
    · -- What denotes the name that was dropped denotes the host, too.
      obtain ⟨entry, hentry, hof, hkey⟩ := exists_of_check hknown
      obtain ⟨recorded, hrecorded, hknown⟩ := Entry.isOf_iff.1 hof
      have hhost : entry.isOf host = true :=
        Entry.isOf_iff.2 ⟨recorded, hrecorded, RecordName.denotes_trans hknown hdenotes⟩
      have hfound := firstKey?_ne_none hentry hhost
      rw [hkey] at hfound
      exact absurd hbefore hfound

/-- A record changes the key that is found as if none of its names were dropped. -/
theorem firstKey?_of_addLine {line : List Char} (h : store.addLine line = .ok store') :
    firstKey? host typeName store'.entries =
      firstKey? host typeName (store.entries ++ (record? line).toList) := by
  cases hrecord : record? line with
  | none =>
    rw [addLine_of_none hrecord h]
    simp
  | some record =>
    obtain ⟨left, hsubset, hmissing, hentries⟩ := addLine_of_some hrecord h
    -- An entry without names is found by no host.
    have hadded : firstKey? host typeName
        (if left.isEmpty then [] else [{ record with names := left }]) =
        firstKey? host typeName [{ record with names := left }] := by
      cases left with
      | nil => rfl
      | cons => rfl
    rw [hentries, firstKey?_append, hadded, Option.toList_some, firstKey?_append,
      firstKey?_singleton, firstKey?_singleton]
    rcases hbefore : firstKey? host typeName store.entries with _ | key
    · by_cases htype : record.key.typeName = typeName
      · subst htype
        rw [isOf_kept hsubset hmissing hbefore]
      · rw [if_neg fun h => htype h.2, if_neg fun h => htype h.2]
    · rfl

/-- For each host and key type the key found in a store is that of the first record of this type
that the host has in the file. -/
theorem firstKey?_of_addLines {content : List (List Char)}
    (h : empty.addLines content = .ok store) :
    firstKey? host typeName store.entries =
      firstKey? host typeName (content.filterMap record?) := by
  refine addLines_induction (I := fun before store => firstKey? host typeName store.entries =
    firstKey? host typeName (before.filterMap record?)) rfl
    (fun before line store store' ih hadd => ?_) h
  have hline : [line].filterMap record? = (record? line).toList := by
    rw [List.filterMap_cons]
    cases record? line <;> rfl
  rw [firstKey?_of_addLine hadd, firstKey?_append, ih, List.filterMap_append, hline,
    ← firstKey?_append]

/-- Where the names in a file are well formed, those in its store are. -/
theorem wellFormed_of_addLines {content : List (List Char)} (h : empty.addLines content = .ok store)
    (hnames : ∀ record ∈ content.filterMap record?, ∀ name ∈ record.names, IsWellFormed name) :
    ∀ entry ∈ store.entries, ∀ name ∈ entry.names, IsWellFormed name := by
  intro entry hentry name hname
  obtain ⟨line, hline, record, hrecord, hmem, -⟩ :=
    exists_line_of_addLines h entry hentry name hname
  exact hnames record (List.mem_filterMap.2 ⟨line, hline, hrecord⟩) name hmem

end SecureForward.TrustStore

namespace SecureForward.Verifying

open Act (run)
open RecordName (IsWellFormed)
open SecureForward.Text.Utf8 (Bytes)
open TrustStore (Entry fileRecords firstKey? trialFile trialKey trialMachine trialPath)

/-- Of a host that shows the key of one of its records, the first record of this key type decides:
with this key the host is accepted, and with another one it is refused. -/
theorem verify_of_record {path : Path} {machine : Machine} {bytes : Bytes} {pinning : Pinning}
    (hread : machine.files.read path = .ok bytes)
    (hload : (run (TrustPolicy.loadStore path) machine).1 = .ok pinning.store)
    (hnames : ∀ record ∈ fileRecords bytes, ∀ name ∈ record.names, IsWellFormed name)
    {hostId : String} {record : Entry} (hrecord : record ∈ fileRecords bytes)
    (hof : record.isOf hostId = true) (now : Machine) :
    let outcome :=
      (run (verify hostId record.key) { decision := .enforced pinning, machine := now }).1
    ∃ first, ((fileRecords bytes).find? fun other =>
        other.isOf hostId && other.key.typeName == record.key.typeName) = some first ∧
      (outcome = .ok () ↔ first.key = record.key) ∧
      (first.key ≠ record.key → outcome = .error (.refusal (.hostKeyMismatch hostId
        (toString pinning.storePath) record.key.typeName record.key.fingerprint))) := by
  intro outcome
  have hmachine := TrustPolicy.run_loadStore_snd path machine
  obtain ⟨bytes', -, hread', hbytes, -⟩ :=
    TrustPolicy.run_loadStore_eq_ok_iff.1 (Prod.ext hload hmachine)
  obtain rfl := Except.ok.inj (hread.symm.trans hread')
  obtain ⟨-, hadd⟩ := TrustStore.fileLines_of_ofBytes hbytes
  -- The record itself is of the host and the type, so that there is a first one.
  have hkey := TrustStore.firstKey?_ne_none hrecord hof
  rw [TrustStore.firstKey?_eq_find?] at hkey
  obtain ⟨first, hfirst⟩ := Option.ne_none_iff_exists'.1 (mt Option.map_eq_none_iff.2 hkey)
  have hlookup : pinning.store.lookup hostId =
      .ok (pinning.store.entries.filter (Entry.isOf hostId)) :=
    TrustStore.matching_of_wellFormed (TrustStore.wellFormed_of_addLines hadd hnames) hostId
  have hfound : TrustStore.keyOfType? (pinning.store.entries.filter (Entry.isOf hostId))
      record.key.typeName = some first.key := by
    have hfile : firstKey? hostId record.key.typeName (fileRecords bytes) = some first.key := by
      rw [TrustStore.firstKey?_eq_find?, hfirst]
      rfl
    exact (TrustStore.firstKey?_of_addLines hadd).trans hfile
  have houtcome : outcome = (run (verifyBy pinning hostId record.key)
      { decision := .enforced pinning, machine := now }).1 := rfl
  refine ⟨first, hfirst, ?_⟩
  by_cases hsame : first.key = record.key
  · rw [houtcome, verifyBy_of_match hlookup (hsame ▸ hfound)]
    exact ⟨⟨fun _ => hsame, fun _ => rfl⟩, fun hne => absurd hsame hne⟩
  · have hother : TrustStore.keyOfType? (pinning.store.entries.filter (Entry.isOf hostId))
        record.key.typeName ≠ some record.key := by
      rw [hfound]
      exact fun h => hsame (Option.some.inj h)
    have hne : pinning.store.entries.filter (Entry.isOf hostId) ≠ [] := by
      intro hnil
      rw [hnil] at hfound
      cases hfound
    rw [houtcome, verifyBy_of_mismatch hlookup hother hne]
    refine ⟨⟨fun h => ?_, fun h => absurd h hsame⟩, fun _ => rfl⟩
    cases h

/-- Two keys of one type that are recorded for the same host, as while the host changes its key. -/
def rotated : List Entry :=
  [{ names := ["gate"], key := trialKey 1 }, { names := ["gate"], key := trialKey 2 }]

/-- The decision on the file of these records. -/
def rotatedPinning : Pinning :=
  { storePath := trialPath, store := { entries := rotated }, preferredType := some "ssh-ed25519"
    hashesNames := true, acceptsNewHosts := false }

/-- The records are read from their file. -/
theorem fileRecords_rotated : fileRecords (trialFile rotated) = rotated := by decide +kernel

/-- Their names are well formed. -/
theorem wellFormed_rotated :
    ∀ record ∈ fileRecords (trialFile rotated), ∀ name ∈ record.names, IsWellFormed name := by
  have hplain : ∀ record ∈ rotated, ∀ name ∈ record.names, RecordName.isHashed name = false := by
    decide
  intro record hrecord name hname hhashed
  rw [fileRecords_rotated] at hrecord
  rw [hplain record hrecord name hname] at hhashed
  cases hhashed

/-- Their file is loaded as a store of both. -/
theorem load_rotated :
    (run (TrustPolicy.loadStore trialPath) (trialMachine (trialFile rotated))).1 =
      .ok rotatedPinning.store :=
  TrustStore.load_trialMachine (by decide +kernel)

/-- The first of two records of a host decides: with its key the host is accepted, and not with the
other one. -/
theorem verify_of_record_trial :
    let s : Verifying := { decision := .enforced rotatedPinning
                           machine := trialMachine (trialFile rotated) }
    (run (verify "gate" (trialKey 1)) s).1 = .ok () ∧
      (run (verify "gate" (trialKey 2)) s).1 = .error (.refusal (.hostKeyMismatch "gate"
        (toString trialPath) (trialKey 2).typeName (trialKey 2).fingerprint)) := by
  intro s
  have hmem (byte : UInt8) (h : byte = 1 ∨ byte = 2) :
      { names := ["gate"], key := trialKey byte } ∈ fileRecords (trialFile rotated) := by
    rw [fileRecords_rotated]
    rcases h with rfl | rfl <;> simp [rotated]
  have hof (byte : UInt8) : Entry.isOf "gate" { names := ["gate"], key := trialKey byte } = true :=
    rfl
  have hfind :
      (rotated.find? fun other => other.isOf "gate" && other.key.typeName == "ssh-ed25519") =
      some { names := ["gate"], key := trialKey 1 } := rfl
  obtain ⟨first, hfirst, haccepted, -⟩ := verify_of_record (TrustStore.read_trialMachine _)
    load_rotated wellFormed_rotated (hmem 1 (.inl rfl)) (hof 1) s.machine
  obtain ⟨first', hfirst', -, hrefused⟩ := verify_of_record (TrustStore.read_trialMachine _)
    load_rotated wellFormed_rotated (hmem 2 (.inr rfl)) (hof 2) s.machine
  rw [fileRecords_rotated] at hfirst hfirst'
  obtain rfl := Option.some.inj (hfind.symm.trans hfirst)
  obtain rfl := Option.some.inj (hfind.symm.trans hfirst')
  exact ⟨haccepted.2 rfl, hrefused (by decide)⟩

/-- A host that shows the key of a record of its own, in a file with well-formed names that is
loaded, is refused where an earlier record has another key of the same type. -/
theorem later_record_refused :
    (run (TrustPolicy.loadStore trialPath) (trialMachine (trialFile rotated))).1 =
        .ok rotatedPinning.store ∧
      (∀ record ∈ fileRecords (trialFile rotated), ∀ name ∈ record.names, IsWellFormed name) ∧
      (∃ record ∈ fileRecords (trialFile rotated), record.isOf "gate" = true ∧
        record.key = trialKey 2) ∧
      (run (verify "gate" (trialKey 2))
        { decision := .enforced rotatedPinning, machine := trialMachine (trialFile rotated) }).1 ≠
          .ok () := by
  refine ⟨load_rotated, wellFormed_rotated, ⟨{ names := ["gate"], key := trialKey 2 }, ?_, ?_⟩, ?_⟩
  · rw [fileRecords_rotated]
    decide
  · exact ⟨by decide, rfl⟩
  · intro h
    cases h

end SecureForward.Verifying
