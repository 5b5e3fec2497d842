import SecureForward.Proofs.Trust.Policy
import SecureForward.Proofs.Trust.Reader
import SecureForward.Proofs.Trust.Recording

/-!
# The store in memory and the store in the file

A session that accepts new hosts records each of them twice, in its own store and at the end of the
store's file. `verify_effect` is the step: a call leaves both as they are, adds the same record to
both, or, if the file does not take the record, adds it to the store in memory only and reports the
loss. What the file comes to by this is `Effect.loads`. `Traced` collects what holds after any
calls, and `file_in_step_after_calls` is the run: as long as no loss is reported, the store that is
loaded from the file is the one in memory.
-/

namespace SecureForward

/-- A record did not reach its file. -/
def Event.isLoss : Event → Bool
  | .keyNotAdded .. => true
  | _ => false

namespace Machine

/-- How often it was reported that a record did not reach its file. -/
def losses (machine : Machine) : Nat :=
  machine.log.countP Event.isLoss

/-- A report counts if it is one of a loss. -/
theorem losses_reporting (event : Event) (machine : Machine) :
    (reporting event machine).losses = machine.losses + if event.isLoss then 1 else 0 := by
  unfold losses
  rw [reporting_log, List.countP_append, List.countP_singleton]

end Machine

namespace Verifying

open Act (run)
open Machine (Holds)
open RecordName (isHashed)
open SecureForward.Text.Utf8 (Bytes)
open TrustStore (Entry keyOfType? record)

/-- The decision rests on the text in a file to which nobody else writes, and new hosts are recorded
under hashed names. -/
structure Kept (s : Verifying) (path : Path) (pinning : Pinning) (bytes : Bytes) : Prop where
  /-- The decision is enforced. -/
  decision : s.decision = .enforced pinning
  /-- The file is that of the store. -/
  storePath : pinning.storePath = path
  /-- New hosts are recorded under hashed names. -/
  hashesNames : pinning.hashesNames = true
  /-- The file has this content, and the log goes elsewhere. -/
  holds : s.machine.Holds path bytes
  /-- The path can be opened. -/
  readable : '\x00' ∉ path.toList
  /-- The content is text. -/
  text : ∃ content, Text.Utf8.decode bytes = .ok content

/-- What it is to record a host: the host is unknown and to be accepted, an entry under a hashed
name comes behind those in memory, and the bytes that are to be added to the file are a line that
holds this entry and nothing else. -/
structure Recording (hostId : String) (key : HostKey) (name : String) (content : List Char)
    (before after : Pinning) (old added : Bytes) : Prop where
  /-- The host has no entry. -/
  unknown : before.store.lookup hostId = .ok []
  /-- New hosts are accepted. -/
  wanted : before.acceptsNewHosts = true
  /-- The name is hashed. -/
  hidden : ∃ salt, RecordName.hash salt hostId = .ok name
  /-- The entry comes last in memory. -/
  memory : after = withEntry before name key
  /-- The text of the file. -/
  text : Text.Utf8.decode old = .ok content
  /-- The line comes behind it, after a line feed if a line is begun there. -/
  bytes : added = Text.Utf8.encode
    ((if content = [] ∨ content.getLast? = some '\n' ∨ content.getLast? = some '\r' then []
      else ['\n']) ++ record name key ++ ['\n'])
  /-- It is one line. -/
  single : '\n' ∉ record name key ∧ '\r' ∉ record name key
  /-- It has three fields. -/
  fields : Text.words (record name key) =
    [name.toList, key.typeName.toList, key.base64.toList]
  /-- It is read as the entry. -/
  entry : Entry.ofLine (record name key) = .ok (some { names := [name], key })

/-- The file does not take these bytes, and this is what it takes of them. -/
inductive Lost (machine : Machine) (path : Path) (added : Bytes) : Bytes → Prop where
  /-- The file cannot be opened to be written. -/
  | barred {e : AccessError} (closed : machine.files.readToUpdate path = .error e) :
      Lost machine path added []
  /-- There is no room for all of them. -/
  | cut (full : machine.files.lacksRoom added = true) :
      Lost machine path added (machine.files.fitting added)

/-- What verifying a host ends with and does to the store in memory and to the content of its
file. -/
inductive Effect (hostId : String) (key : HostKey) (s : Verifying)
    (ended : Except Fault Unit × Verifying) (before after : Pinning) (old new : Bytes) : Prop where
  /-- The host is known or not accepted, and nothing changes. -/
  | unchanged (settled : ¬(ended.1 = .ok () ∧ before.store.lookup hostId = .ok []))
      (memory : after = before) (file : new = old)
      (losses : ended.2.machine.losses = s.machine.losses)
  /-- The host is recorded in memory and in the file. -/
  | recorded (name : String) (content : List Char) (added : Bytes) (accepted : ended.1 = .ok ())
      (recording : Recording hostId key name content before after old added)
      (file : new = old ++ added) (losses : ended.2.machine.losses = s.machine.losses)
  /-- The host is recorded in memory, a part of the record at most reaches the file, and this is
  reported. -/
  | lost (name : String) (content : List Char) (added part : Bytes) (error : String)
      (accepted : ended.1 = .ok ())
      (recording : Recording hostId key name content before after old added)
      (file : new = old ++ part) (short : part <+: added ∧ part ≠ added)
      (loss : Lost s.machine before.storePath added part)
      (report : ended.2.machine.log =
        s.machine.log ++ [.keyNotAdded (toString before.storePath) error])

/-- The state after hosts were verified one after the other, whatever each call ended with. -/
def afterCalls (calls : List (String × HostKey)) (s : Verifying) : Verifying :=
  calls.foldl (fun s call => (run (verify call.1 call.2) s).2) s

variable {s : Verifying} {path : Path} {pinning before after : Pinning} {old new : Bytes}
  {hostId name : String} {key : HostKey} {ended : Except Fault Unit × Verifying}

namespace Kept

/-- A file that is opened has the content that it is known to have. -/
theorem eq_of_opened {opened : Bytes} (h : Kept s path pinning old)
    (hopened : s.machine.files.readToUpdate path = .ok opened) : opened = old :=
  Except.ok.inj ((FileTree.read_of_readToUpdate hopened).symm.trans h.holds.read)

/-- A report leaves the file as it is. -/
theorem told (h : Kept s path pinning old) (event : Event) : Kept (told event s) path pinning old :=
  { h with holds := h.holds.reporting event }

/-- Drawing a salt leaves the file as it is. -/
theorem drawn (h : Kept s path pinning old) :
    Kept { s with machine := s.machine.drawn } path pinning old :=
  { h with holds := ⟨h.holds.read, h.holds.apart⟩ }

/-- An entry that is added in memory leaves the file as it is. -/
theorem withEntry (h : Kept s path pinning old) (name : String) (key : HostKey) :
    Kept { s with decision := .enforced (withEntry pinning name key) } path
      (Verifying.withEntry pinning name key) old :=
  ⟨rfl, h.storePath, h.hashesNames, h.holds, h.readable, h.text⟩

/-- ASCII text that is put at the end of the file leaves it text, whether there is room for all of
it or not. -/
theorem extend (h : Kept s path pinning old) {text : List Char} (hascii : Text.Utf8.IsAscii text) :
    Kept { s with machine := s.machine.extend path old text } path pinning
      (old ++ s.machine.files.fitting (Text.Utf8.encode text)) := by
  obtain ⟨content, hcontent⟩ := h.text
  have hdecode : ∃ content, Text.Utf8.decode
      (old ++ s.machine.files.fitting (Text.Utf8.encode text)) = .ok content := by
    unfold FileTree.fitting
    cases s.machine.files.room with
    | none => exact ⟨_, Text.Utf8.decode_append_encode hcontent hascii⟩
    | some room => exact ⟨_, Text.Utf8.decode_append_take hcontent hascii room⟩
  exact ⟨h.decision, h.storePath, h.hashesNames, h.holds.extend text, h.readable, hdecode⟩

/-- A store that the file holds is loaded from it. -/
theorem loadStore {store : TrustStore} (h : Kept s path pinning old)
    (hbytes : TrustStore.ofBytes (toString path) old = .ok store) :
    run (TrustPolicy.loadStore path) s.machine = (.ok store, s.machine) :=
  TrustPolicy.run_loadStore_eq_ok_iff.2 ⟨old, h.readable, h.holds.read, hbytes, rfl⟩

end Kept

/-- A host without an entry is recorded under a hashed name. -/
theorem recording_of_hash {salt : Bytes} {content : List Char} (hkey : key.ReadsBack)
    (hlookup : before.store.lookup hostId = .ok []) (haccepts : before.acceptsNewHosts = true)
    (hname : RecordName.hash salt hostId = .ok name)
    (hcontent : Text.Utf8.decode old = .ok content) :
    Recording hostId key name content before (withEntry before name key) old
      (Text.Utf8.encode (addedText content { names := [name], key })) := by
  have hword : RecordName.IsWord name :=
    RecordName.eq_hashed_of_hash hname ▸ RecordName.isWord_hashed _ hostId
  refine ⟨hlookup, haccepts, ⟨salt, hname⟩, rfl, hcontent, ?_, TrustStore.record_no_breaks hword,
    TrustStore.words_record hword, TrustStore.ofLine_record hword hkey⟩
  change Text.Utf8.encode (addition content (record name key ++ ['\n'])) = _
  rw [TrustStore.addition_eq]
  split <;> simp

/-- What a record adds to a file is not empty. -/
theorem Recording.added_ne_nil {content : List Char} {added : Bytes}
    (h : Recording hostId key name content before after old added) : added ≠ [] := by
  intro hnil
  rw [h.bytes, Text.Utf8.encode, List.flatMap_append] at hnil
  exact absurd (List.append_eq_nil_iff.1 hnil).2 (by decide)

/-- The record of a host that is in memory already reaches the file, or it is reported lost, and the
call succeeds in any case. -/
theorem recordInFile_effect (h : Kept s path pinning old) {salt : Bytes} (hkey : key.ReadsBack)
    (hlookup : pinning.store.lookup hostId = .ok []) (haccepts : pinning.acceptsNewHosts = true)
    (hname : RecordName.hash salt hostId = .ok name) :
    let ended := run (recordInFile pinning hostId key name)
      ⟨.enforced (withEntry pinning name key), s.machine.drawn⟩
    (∃ new, Kept ended.2 path (withEntry pinning name key) new ∧
      Effect hostId key s ended pinning (withEntry pinning name key) old new) ∧
        ended.1 = .ok () := by
  obtain rfl := h.storePath
  obtain ⟨content, hcontent⟩ := h.text
  have hrecording := recording_of_hash hkey hlookup haccepts hname hcontent
  have hnext := h.drawn.withEntry name key
  have hascii (content : List Char) :
      Text.Utf8.IsAscii (addedText content { names := [name], key }) := by
    have hword : RecordName.IsWord name :=
      RecordName.eq_hashed_of_hash hname ▸ RecordName.isWord_hashed _ hostId
    exact TrustStore.isAscii_addition content
      ((TrustStore.isAscii_record hword).append (Text.Utf8.isAscii_of_all rfl))
  have happended :=
    appended_appendRecord pinning.storePath { names := [name], key } s.machine.drawn
  rcases happend :
      run (appendRecord pinning.storePath { names := [name], key }) s.machine.drawn with
    ⟨outcome, machine⟩
  rw [happend] at happended
  dsimp only
  rw [run_recordInFile happend]
  cases happended with
  | barred hclosed =>
    refine ⟨⟨_, hnext.told _, ?_⟩, rfl⟩
    exact .lost name content _ [] _ rfl hrecording (List.append_nil old).symm
      ⟨List.nil_prefix, hrecording.added_ne_nil.symm⟩ (.barred hclosed) (Machine.reporting_log _ _)
  | textless hunexpected htext =>
    -- The file was text when it was opened.
    rcases htext with hnull | ⟨opened, e, hopened, hdecode⟩
    · exact absurd hnull h.readable
    · obtain rfl := h.drawn.eq_of_opened hopened
      cases hcontent.symm.trans hdecode
  | cut hopened hdecode hfull =>
    obtain rfl := h.drawn.eq_of_opened hopened
    obtain rfl := Except.ok.inj (hcontent.symm.trans hdecode)
    refine ⟨⟨_, (hnext.extend (hascii content)).told _, ?_⟩, rfl⟩
    exact .lost name content _ _ _ rfl hrecording rfl
      ⟨FileTree.fitting_prefix _ _, FileTree.fitting_ne_of_lacksRoom hfull⟩ (.cut hfull)
      (Machine.reporting_log _ _)
  | whole hopened hdecode hfits =>
    obtain rfl := h.drawn.eq_of_opened hopened
    obtain rfl := Except.ok.inj (hcontent.symm.trans hdecode)
    refine ⟨⟨_, (hnext.extend (hascii content)).told _, ?_⟩, rfl⟩
    exact .recorded name content _ rfl hrecording (by rw [FileTree.fitting_of_fits hfits])
      (Machine.losses_reporting _ _)

/-- Recording a new host has one of the effects, and the file is still kept. The host is accepted
once a salt of the right length hides its name. -/
theorem remember_effect (h : Kept s path pinning old) (hhost : isHashed hostId = false)
    (hkey : key.ReadsBack) (hlookup : pinning.store.lookup hostId = .ok [])
    (haccepts : pinning.acceptsNewHosts = true) :
    let ended := run (remember pinning hostId key) s
    (∃ after new, Kept ended.2 path after new ∧ Effect hostId key s ended pinning after old new) ∧
      (s.machine.nextSalt.length = Digest.sha1Size → ended.1 = .ok ()) := by
  have hnamed := newName_of_hashes h.hashesNames hostId s.machine
  dsimp only
  rcases hname : RecordName.hash s.machine.nextSalt hostId with fault | name
  · rw [hname] at hnamed
    rw [run_remember_of_nameless hnamed]
    refine ⟨⟨pinning, old, h.drawn, .unchanged (fun hok => by cases hok.1) rfl rfl rfl⟩, ?_⟩
    intro hsalt
    cases hname.symm.trans (if_pos hsalt)
  · rw [hname] at hnamed
    rw [run_remember_of_named hnamed,
      TrustStore.insert_of_not_mem key (TrustStore.hashed_not_mem hhost hlookup hname)]
    obtain ⟨⟨new, hkept, heffect⟩, haccepted⟩ :=
      recordInFile_effect h hkey hlookup haccepts hname
    exact ⟨⟨withEntry pinning name key, new, hkept, heffect⟩, fun _ => haccepted⟩

/-- Verifying a host has one of the effects, and the file is still kept. A new host is accepted if
new hosts are, once a salt of the right length hides its name. -/
theorem verify_effect (h : Kept s path pinning old) (hhost : isHashed hostId = false)
    (hkey : key.ReadsBack) :
    let ended := run (verify hostId key) s
    (∃ after new, Kept ended.2 path after new ∧ Effect hostId key s ended pinning after old new) ∧
      (pinning.store.lookup hostId = .ok [] → pinning.acceptsNewHosts = true →
        s.machine.nextSalt.length = Digest.sha1Size → ended.1 = .ok ()) := by
  have hverdict := verdict_verifyBy pinning hostId key
  dsimp only
  rw [verify_of_enforced h.decision]
  by_cases hnew : pinning.store.lookup hostId = .ok [] ∧ pinning.acceptsNewHosts = true
  · rw [verifyBy_of_new hnew.1 hnew.2]
    obtain ⟨heffect, haccepted⟩ := remember_effect h hhost hkey hnew.1 hnew.2
    exact ⟨heffect, fun _ _ => haccepted⟩
  · refine ⟨?_, fun hlookup haccepts => absurd ⟨hlookup, haccepts⟩ hnew⟩
    generalize verifyBy pinning hostId key = act at hverdict ⊢
    cases hverdict with
    | refused fault => exact ⟨pinning, old, h, .unchanged (fun hok => by cases hok.1) rfl rfl rfl⟩
    | known hlookup hrecorded =>
      have hsettled := ne_nil_of_recorded hlookup hrecorded
      rw [run_report rfl]
      exact ⟨pinning, old, h.told _, .unchanged (fun hok => hsettled hok.2) rfl rfl
        (Machine.losses_reporting _ _)⟩
    | new hlookup haccepts => exact absurd ⟨hlookup, haccepts⟩ hnew

namespace Effect

/-- What the file held is never changed. -/
theorem keeps (h : Effect hostId key s ended before after old new) : old <+: new := by
  cases h with
  | unchanged _ _ hfile => exact hfile ▸ List.prefix_refl old
  | recorded _ _ _ _ _ hfile => exact hfile ▸ List.prefix_append ..
  | lost _ _ _ _ _ _ _ hfile => exact hfile ▸ List.prefix_append ..

/-- A loss is reported, and nothing else counts as one. -/
theorem losses_le (h : Effect hostId key s ended before after old new) :
    s.machine.losses ≤ ended.2.machine.losses := by
  cases h with
  | unchanged _ _ _ hlosses => exact Nat.le_of_eq hlosses.symm
  | recorded _ _ _ _ _ _ hlosses => exact Nat.le_of_eq hlosses.symm
  | lost _ _ _ _ _ _ _ _ _ _ hreport =>
    unfold Machine.losses
    rw [hreport, List.countP_append]
    exact Nat.le_add_right _ _

/-- A store that the file holds, whose entries are among those in memory, is still held with the
record behind it, unless a part of a record reached the file. It is the one in memory if it was
before and nothing was lost. -/
theorem loads (h : Effect hostId key s ended before after old new) (hhost : isHashed hostId = false)
    (hkey : key.ReadsBack) {path : String} {held : TrustStore}
    (hload : TrustStore.ofBytes path old = .ok held)
    (hheld : held.entries.Sublist before.store.entries)
    (hwhole : s.machine.files.room = none ∨ ended.2.machine.losses = s.machine.losses) :
    ∃ held', TrustStore.ofBytes path new = .ok held' ∧
      held'.entries.Sublist after.store.entries ∧
      (ended.2.machine.losses = s.machine.losses → held = before.store → held' = after.store) := by
  cases h with
  | unchanged _ hmemory hfile =>
    rw [hmemory, hfile]
    exact ⟨held, hload, hheld, fun _ => id⟩
  | recorded name content added _ hrecording hfile =>
    obtain ⟨salt, hname⟩ := hrecording.hidden
    have hform := RecordName.eq_hashed_of_hash hname
    -- No entry in memory has the name yet, hence none in the file.
    have hmem := TrustStore.hashed_not_mem hhost hrecording.unknown hname
    have hnew := TrustStore.ofBytes_append_record hload hrecording.text
      (hform ▸ RecordName.isWord_hashed _ hostId) (hform ▸ RecordName.isHashed_hashed _ hostId) hkey
      fun entry hentry => hmem entry (hheld.subset hentry)
    have hadded : Text.Utf8.encode (addition content (record name key ++ ['\n'])) = added := by
      rw [hrecording.bytes, TrustStore.addition_eq]
      split <;> simp
    rw [hadded, ← hfile] at hnew
    rw [hrecording.memory]
    exact ⟨_, hnew, hheld.append (List.Sublist.refl _), fun _ hsame => by rw [hsame]; rfl⟩
  | lost name content added part error _ hrecording hfile _ hloss hreport =>
    have hlosses : ended.2.machine.losses ≠ s.machine.losses := by
      unfold Machine.losses
      rw [hreport, List.countP_append]
      simp [Event.isLoss]
    have hpart : part = [] := by
      cases hloss with
      | barred => rfl
      | cut hfull =>
        rcases hwhole with hroom | hsame
        · unfold FileTree.lacksRoom at hfull
          rw [hroom] at hfull
          cases hfull
        · exact absurd hsame hlosses
    rw [hfile, hpart, List.append_nil, hrecording.memory]
    exact ⟨held, hload, hheld.trans (List.sublist_append_left _ _),
      fun hsame => absurd hsame hlosses⟩

end Effect

/-- What holds after calls that were made on a decision since its store was loaded on the machine
`start`. -/
structure Traced (start : Machine) (s : Verifying) (path : Path) (pinning : Pinning)
    (bytes : Bytes) :
    Prop where
  /-- The file is kept. -/
  kept : Kept s path pinning bytes
  /-- Losses were only added to. -/
  losses : start.losses ≤ s.machine.losses
  /-- Where there was room for everything, there still is. -/
  room : start.files.room = none → s.machine.files.room = none
  /-- As long as nothing was lost, the file holds the store in memory. -/
  inStep : s.machine.losses = start.losses →
    TrustStore.ofBytes (toString path) bytes = .ok pinning.store
  /-- As long as there was room, the file holds a store whose entries are in memory. -/
  behind : start.files.room = none → ∃ held, TrustStore.ofBytes (toString path) bytes = .ok held ∧
    held.entries.Sublist pinning.store.entries

/-- One more call. -/
theorem Traced.step {start : Machine} (h : Traced start s path before old)
    (hhost : isHashed hostId = false) (hkey : key.ReadsBack)
    (hkept : Kept (run (verify hostId key) s).2 path after new)
    (heffect : Effect hostId key s (run (verify hostId key) s) before after old new) :
    Traced start (run (verify hostId key) s).2 path after new where
  kept := hkept
  losses := Nat.le_trans h.losses heffect.losses_le
  room hroom := (advanced_verify h.kept.decision hostId key).room (h.room hroom)
  inStep hlosses := by
    have hbefore : s.machine.losses = start.losses :=
      Nat.le_antisymm (hlosses ▸ heffect.losses_le) h.losses
    have hsame := hlosses.trans hbefore.symm
    obtain ⟨held, hload, -, hmemory⟩ := heffect.loads hhost hkey (h.inStep hbefore)
      (List.Sublist.refl _) (.inr hsame)
    rw [hload, hmemory hsame rfl]
  behind hroom := by
    obtain ⟨held, hload, hheld⟩ := h.behind hroom
    obtain ⟨held', hload', hheld', -⟩ := heffect.loads hhost hkey hload hheld (.inl (h.room hroom))
    exact ⟨held', hload', hheld'⟩

/-- Any calls. -/
theorem Traced.afterCalls {start : Machine} (h : Traced start s path before old)
    {calls : List (String × HostKey)}
    (hcalls : ∀ call ∈ calls, isHashed call.1 = false ∧ call.2.ReadsBack) :
    ∃ after new, Traced start (afterCalls calls s) path after new := by
  induction calls generalizing s before old with
  | nil => exact ⟨before, old, h⟩
  | cons call calls ih =>
    obtain ⟨⟨hhost, hkey⟩, hrest⟩ := List.forall_mem_cons.1 hcalls
    obtain ⟨⟨after, new, hkept, heffect⟩, -⟩ := verify_effect h.kept hhost hkey
    exact ih (h.step hhost hkey hkept heffect) hrest

/-- From a store that was loaded from its file, with new hosts recorded under hashed names and
nobody else writing to the file, and after any calls for hosts whose names do not begin like hashed
ones: the next call leaves what the file held in front of what it holds now. It adds nothing, or
exactly one record, or, where the file does not take the record, at most a part of it, and then this
is reported. As long as no loss was reported, the store that is loaded from the file is the one in
memory; and as long as there is room, a store is loaded whose entries are in memory. A host is
recorded whenever it is unknown, new hosts are accepted and the salt has the right length. -/
theorem file_in_step_after_calls {path : Path} {pinning : Pinning} {machine : Machine}
    (hload : (run (TrustPolicy.loadStore path) machine).1 = .ok pinning.store)
    (hpath : pinning.storePath = path) (hhashes : pinning.hashesNames = true)
    (hapart : machine.LogsElsewhere path)
    (calls : List (String × HostKey)) (hostId : String) (key : HostKey)
    (hcalls : ∀ call ∈ calls ++ [(hostId, key)], isHashed call.1 = false ∧ call.2.ReadsBack) :
    let s := afterCalls calls { decision := .enforced pinning, machine }
    let ended := run (verify hostId key) s
    ∃ before after old new, Kept s path before old ∧ Kept ended.2 path after new ∧
      Effect hostId key s ended before after old new ∧ old <+: new ∧
      (s.machine.losses = machine.losses →
        run (TrustPolicy.loadStore path) s.machine = (.ok before.store, s.machine)) ∧
      (ended.2.machine.losses = machine.losses →
        run (TrustPolicy.loadStore path) ended.2.machine = (.ok after.store, ended.2.machine)) ∧
      (machine.files.room = none → ∃ held,
        run (TrustPolicy.loadStore path) ended.2.machine = (.ok held, ended.2.machine) ∧
          held.entries.Sublist after.store.entries) ∧
      (before.store.lookup hostId = .ok [] → before.acceptsNewHosts = true →
        s.machine.nextSalt.length = Digest.sha1Size → ended.1 = .ok ()) := by
  intro s ended
  have hmachine := TrustPolicy.run_loadStore_snd path machine
  obtain ⟨bytes, hreadable, hread, hbytes, -⟩ :=
    TrustPolicy.run_loadStore_eq_ok_iff.1 (Prod.ext hload hmachine)
  obtain ⟨content, hcontent, -⟩ := TrustStore.ofBytes_eq_ok_iff.1 hbytes
  -- Nothing was lost yet, and the file holds what was loaded from it.
  have hstart : Traced machine { decision := .enforced pinning, machine } path pinning bytes :=
    ⟨⟨rfl, hpath, hhashes, ⟨hread, hapart⟩, hreadable, content, hcontent⟩, Nat.le_refl _, id,
      fun _ => hbytes, fun _ => ⟨pinning.store, hbytes, List.Sublist.refl _⟩⟩
  obtain ⟨hearlier, hlast⟩ := List.forall_mem_append.1 hcalls
  obtain ⟨hhost, hkey⟩ := hlast (hostId, key) (List.mem_singleton.2 rfl)
  obtain ⟨before, old, hbefore⟩ := hstart.afterCalls hearlier
  obtain ⟨⟨after, new, hkept, heffect⟩, haccepted⟩ := verify_effect hbefore.kept hhost hkey
  have hafter := hbefore.step hhost hkey hkept heffect
  refine ⟨before, after, old, new, hbefore.kept, hkept, heffect, heffect.keeps, ?_, ?_, ?_,
    haccepted⟩
  · exact fun hlosses => hbefore.kept.loadStore (hbefore.inStep hlosses)
  · exact fun hlosses => hkept.loadStore (hafter.inStep hlosses)
  · intro hroom
    obtain ⟨held, hheld, hsublist⟩ := hafter.behind hroom
    exact ⟨held, hkept.loadStore hheld, hsublist⟩

/-- A file with a comment, after which no line break stands. -/
def trialMachine : Machine where
  place := { home := "/home", current := "/" }
  files := FileTree.empty.insert { doubled := false, names := ["hosts".toList] }
    (.file (Text.Utf8.encode "# hosts".toList))
  salts := []
  clock := ""
  log := []
  console := none
  consoleLines := []
  logFile := none

/-- The decision on the file with a comment. -/
def trialPinning : Pinning where
  storePath := { doubled := false, names := ["hosts".toList] }
  store := TrustStore.empty
  preferredType := none
  hashesNames := true
  acceptsNewHosts := true

/-- The key of the hosts that are accepted. -/
def trialKey : HostKey := .ed25519 (List.replicate 32 (.ofNat 7)) (by decide)

/-- From the file with a comment an empty store is loaded. -/
theorem ofBytes_trial : TrustStore.ofBytes "/hosts" (Text.Utf8.encode "# hosts".toList) =
    .ok TrustStore.empty := by
  have hascii : Text.Utf8.IsAscii "# hosts".toList := Text.Utf8.isAscii_of_all (by decide)
  exact TrustStore.ofBytes_eq_ok_iff.2 ⟨_, Text.Utf8.decodeFrom_encode hascii 0, rfl, rfl⟩

/-- Two hosts with the same key, one after the other, behind a comment without a line break: nothing
is lost, both are in the store that is loaded, and three line breaks are written, one to end the
comment and one behind each record. -/
theorem file_in_step_after_calls_trial :
    let s := afterCalls [("near", trialKey)]
      { decision := .enforced trialPinning, machine := trialMachine }
    let ended := run (verify "far" trialKey) s
    (∃ before after old new, Kept s trialPinning.storePath before old ∧
      Kept ended.2 trialPinning.storePath after new ∧
      Effect "far" trialKey s ended before after old new ∧ old <+: new ∧
      run (TrustPolicy.loadStore trialPinning.storePath) ended.2.machine =
        (.ok after.store, ended.2.machine)) ∧
      ended.2.machine.losses = 0 ∧
      (ended.2.machine.files.read trialPinning.storePath).toOption.map
        (fun bytes => bytes.count (.ofNat 10)) = some 3 := by
  intro s ended
  have hload : run (TrustPolicy.loadStore trialPinning.storePath) trialMachine =
      (.ok trialPinning.store, trialMachine) :=
    TrustPolicy.run_loadStore_eq_ok_iff.2 ⟨_, by decide, rfl, ofBytes_trial, rfl⟩
  have hkey : trialKey.ReadsBack := HostKey.readsBack_of_fits trivial
  have hcalls : ∀ call ∈ [("near", trialKey)] ++ [("far", trialKey)],
      isHashed call.1 = false ∧ call.2.ReadsBack := by
    intro call hcall
    simp only [List.singleton_append, List.mem_cons, List.not_mem_nil, or_false] at hcall
    rcases hcall with rfl | rfl
    · exact ⟨by decide, hkey⟩
    · exact ⟨by decide, hkey⟩
  have hlosses : ended.2.machine.losses = 0 := by decide +kernel
  obtain ⟨before, after, old, new, hold, hnew, heffect, hprefix, -, hloads, -⟩ :=
    file_in_step_after_calls (congrArg Prod.fst hload) rfl rfl (fun _ h => by cases h)
      [("near", trialKey)] "far" trialKey hcalls
  exact ⟨⟨before, after, old, new, hold, hnew, heffect, hprefix, hloads hlosses⟩, hlosses,
    by decide +kernel⟩

/-- The file with a comment, which may be read and not written. -/
def barredMachine : Machine :=
  { trialMachine with
    files := { trialMachine.files with withheld := [(["hosts".toList], .write)] } }

/-- A host that is accepted while the file may not be written is in memory and not in the file,
which can still be loaded. -/
theorem barred_file_out_of_step :
    let ended := run (verify "near" trialKey)
      { decision := .enforced trialPinning, machine := barredMachine }
    (run (TrustPolicy.loadStore trialPinning.storePath) barredMachine).1 = .ok trialPinning.store ∧
      ended.1 = .ok () ∧ ended.2.machine.losses = 1 ∧
      ended.2.decision ≠ .enforced trialPinning ∧
      (run (TrustPolicy.loadStore trialPinning.storePath) ended.2.machine).1 =
        .ok trialPinning.store := by
  intro ended
  have hload {machine : Machine} (hread : machine.files.read trialPinning.storePath =
      .ok (Text.Utf8.encode "# hosts".toList)) :
      (run (TrustPolicy.loadStore trialPinning.storePath) machine).1 = .ok trialPinning.store :=
    congrArg Prod.fst
      (TrustPolicy.run_loadStore_eq_ok_iff.2 ⟨_, by decide, hread, ofBytes_trial, rfl⟩)
  exact ⟨hload rfl, by rfl, by decide +kernel, by decide +kernel, hload (by rfl)⟩

end Verifying

end SecureForward
