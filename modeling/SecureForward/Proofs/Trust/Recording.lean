import SecureForward.Proofs.Trust.Verify

/-!
# Recording a new host

A new host gets a name (`newName`), then an entry in memory, and then a record at the end of the
file. `Appended` lists what the last step can come to: the file cannot be opened, holds no text,
takes a part of the record, or takes all of it. What is reported follows from the outcome alone
(`run_recordInFile`), and `run_remember_of_named` puts the steps together. Nothing is written in any
of them but to the file of the store and to the log (`advanced_verify`).
-/

namespace SecureForward

namespace Machine

/-- Salts may have been drawn, and nothing was written but to the log and to the file at this path,
if this can be read. -/
structure Advanced (path : Path) (machine machine' : Machine) : Prop where
  /-- The salts that are left. -/
  salts : machine'.salts <:+ machine.salts
  /-- The log writes to the same file. -/
  logFile : machine'.logFile = machine.logFile
  /-- This file stays open. -/
  logOpen : machine.LogOpen → machine.LogsElsewhere path → machine'.LogOpen
  /-- Where there is room for everything, there still is. -/
  room : machine.files.room = none → machine'.files.room = none

namespace Advanced

variable {path : Path} {machine machine' machine'' : Machine}

/-- Reports write to the log only. -/
theorem of_reported (h : Reported machine machine') : Advanced path machine machine' :=
  ⟨h.salts ▸ List.suffix_refl _, h.logFile, fun hopen _ => h.logOpen hopen, h.room⟩

/-- The log still goes elsewhere. -/
theorem logsElsewhere (h : Advanced path machine machine') (helse : machine.LogsElsewhere path) :
    machine'.LogsElsewhere path :=
  fun file hfile => helse file (h.logFile ▸ hfile)

/-- One change after the other. -/
theorem trans (h : Advanced path machine machine') (h' : Advanced path machine' machine'') :
    Advanced path machine machine'' where
  salts := h'.salts.trans h.salts
  logFile := h'.logFile.trans h.logFile
  logOpen hopen helse := h'.logOpen (h.logOpen hopen helse) (h.logsElsewhere helse)
  room hroom := h'.room (h.room hroom)

/-- A salt is drawn. -/
theorem drawn (path : Path) (machine : Machine) : Advanced path machine machine.drawn :=
  ⟨List.tail_suffix _, rfl, fun hopen _ => hopen, id⟩

/-- Text is put at the end of a file that can be read. -/
theorem extend {content : Text.Utf8.Bytes} (hread : machine.files.read path = .ok content)
    (text : List Char) : Advanced path machine (machine.extend path content text) where
  salts := List.suffix_refl _
  logFile := rfl
  logOpen hopen helse := by
    intro file hfile
    obtain ⟨lines, hlines⟩ := hopen file hfile
    -- The log file is another one, so that a look at it finds what it found before.
    have hsame := FileTree.reads_extend_of_ne (FileTree.read_eq_ok_iff.1 hread).1 content
      (Text.Utf8.encode text) (helse file hfile).ne.symm
    exact ⟨lines, hsame.1.trans hlines⟩
  room := Option.map_eq_none_iff.2

end Advanced

end Machine

namespace Verifying

open Act (run)
open Machine (Advanced)
open SecureForward.Text.Utf8 (Bytes)
open TrustStore (Entry)

variable {s : Verifying} {pinning : Pinning} {hostId name : String} {key : HostKey} {fault : Fault}
  {machine machine' : Machine}

/-- An act on the machine leaves the decision as it is. -/
theorem run_onMachine {α : Type} {act : Act Machine α} {outcome : Except Fault α}
    {machine : Machine} (h : run act s.machine = (outcome, machine)) :
    run (onMachine act) s = (outcome, { s with machine }) := by
  unfold onMachine
  rw [Act.run_within]
  change ((run act s.machine).1, { s with machine := (run act s.machine).2 }) = _
  rw [h]

/-- The same decision once an event was reported. -/
def told (event : Event) (s : Verifying) : Verifying :=
  { s with machine := Machine.reporting event s.machine }

/-- A report that can be put into words succeeds. -/
theorem run_report {event : Event} (h : event.isWritable = true) (s : Verifying) :
    run (onMachine (Machine.report event)) s = (.ok (), told event s) :=
  run_onMachine (Machine.run_report_of_writable h s.machine)

/-! ## The record in the file -/

/-- Nothing can be put at the end of a file whose path is none, or that can be opened but is no
text. -/
def HoldsNoText (machine : Machine) (path : Path) : Prop :=
  '\x00' ∈ path.toList ∨
    ∃ bytes e, machine.files.readToUpdate path = .ok bytes ∧ Text.Utf8.decode bytes = .error e

/-- What is put at the end of a file with this content. -/
def addedText (content : List Char) (entry : Entry) : List Char :=
  addition content (entry.toLine ++ ['\n'])

/-- What putting a record at the end of a file comes to. -/
inductive Appended (path : Path) (entry : Entry) (machine : Machine) :
    Except Fault Unit × Machine → Prop where
  /-- The file cannot be opened. -/
  | barred {e : AccessError} (closed : machine.files.readToUpdate path = .error e) :
      Appended path entry machine (.error (.access e (toString path)), machine)
  /-- The file holds no text. -/
  | textless {fault : Fault} (unexpected : fault.isSystem = false)
      (holdsNoText : HoldsNoText machine path) : Appended path entry machine (.error fault, machine)
  /-- There is room for a part of the record only. -/
  | cut {old : Bytes} {content : List Char} (opened : machine.files.readToUpdate path = .ok old)
      (text : Text.Utf8.decode old = .ok content)
      (full : machine.files.lacksRoom (Text.Utf8.encode (addedText content entry)) = true) :
      Appended path entry machine (.error (.outside .system AccessError.noRoom.numbered),
        machine.extend path old (addedText content entry))
  /-- The record is there. -/
  | whole {old : Bytes} {content : List Char} (opened : machine.files.readToUpdate path = .ok old)
      (text : Text.Utf8.decode old = .ok content)
      (fits : machine.files.lacksRoom (Text.Utf8.encode (addedText content entry)) = false) :
      Appended path entry machine (.ok (), machine.extend path old (addedText content entry))

/-- There are no other ways to put a record at the end of a file. -/
theorem appended_appendRecord (path : Path) (entry : Entry) (machine : Machine) :
    Appended path entry machine (run (appendRecord path entry) machine) := by
  have hopen := Machine.run_openToUpdate path machine
  unfold appendRecord
  by_cases hnull : '\x00' ∈ path.toList
  · rw [if_pos hnull] at hopen
    rw [Act.run_bind_of_error hopen]
    exact .textless rfl (.inl hnull)
  rw [if_neg hnull] at hopen
  rcases hopened : machine.files.readToUpdate path with e | old
  · rw [hopened] at hopen
    rw [Act.run_bind_of_error hopen]
    exact .barred hopened
  · rw [hopened] at hopen
    rw [Act.run_bind_of_ok hopen]
    rcases hdecode : Text.Utf8.decode old with e | content
    · exact .textless rfl (.inr ⟨old, e, hopened, hdecode⟩)
    · dsimp only
      rw [Machine.run_appendToFile]
      split
      · exact .cut hopened hdecode ‹_›
      · exact .whole hopened hdecode (Bool.eq_false_iff.2 ‹_›)

/-- What becomes of the record is reported, unless the file holds no text. -/
theorem run_recordInFile {outcome : Except Fault Unit}
    (h : run (appendRecord pinning.storePath { names := [name], key }) s.machine =
      (outcome, machine)) :
    run (recordInFile pinning hostId key name) s =
      let path := toString pinning.storePath
      match outcome with
      | .ok () =>
        (.ok (), told (.keyAdded hostId key.typeName key.fingerprint path) { s with machine })
      | .error fault =>
        if fault.isSystem then (.ok (), told (.keyNotAdded path fault.message) { s with machine })
        else (.error fault, { s with machine }) := by
  unfold recordInFile
  dsimp only
  rw [Act.run_bind_of_ok (Act.run_attempt _ _), run_onMachine h]
  rcases outcome with fault | _
  · dsimp only
    split
    · exact run_report rfl _
    · rfl
  · exact run_report rfl _

/-! ## The name and the entry -/

/-- The name that a new host is recorded under, and the machine once it is found. -/
def newName (pinning : Pinning) (hostId : String) (machine : Machine) :
    Except Fault String × Machine :=
  if pinning.hashesNames then (RecordName.hash machine.nextSalt hostId, machine.drawn)
  else (.ok hostId, machine)

/-- A name that is hidden costs a salt. -/
theorem newName_of_hashes (h : pinning.hashesNames = true) (hostId : String) (machine : Machine) :
    newName pinning hostId machine = (RecordName.hash machine.nextSalt hostId, machine.drawn) :=
  if_pos h

/-- What a decision rests on, with a further entry behind those of the store. -/
def withEntry (pinning : Pinning) (name : String) (key : HostKey) : Pinning :=
  { pinning with store := { entries := pinning.store.entries ++ [{ names := [name], key }] } }

/-- A new host without a name is not recorded at all. -/
theorem run_remember_of_nameless (h : newName pinning hostId s.machine = (.error fault, machine)) :
    run (remember pinning hostId key) s = (.error fault, { s with machine }) := by
  unfold newName at h
  cases hhashes : pinning.hashesNames with
  | true =>
    rw [if_pos hhashes] at h
    obtain ⟨hname, rfl⟩ := Prod.mk.inj h
    unfold remember
    dsimp only
    rw [if_pos hhashes, Act.run_bind_of_ok (run_onMachine (Machine.run_drawSalt _)), hname,
      Act.run_bind_of_error (Act.run_ofExcept _ _)]
  | false =>
    rw [if_neg (by simp [hhashes])] at h
    cases h

/-- A new host is recorded under its name in memory, and then in the file. -/
theorem run_remember_of_named (h : newName pinning hostId s.machine = (.ok name, machine)) :
    run (remember pinning hostId key) s =
      run (recordInFile pinning hostId key name)
        { decision := .enforced { pinning with store := pinning.store.insert name key },
          machine } := by
  unfold newName at h
  unfold remember
  dsimp only
  cases hhashes : pinning.hashesNames with
  | true =>
    rw [if_pos hhashes] at h
    obtain ⟨hname, rfl⟩ := Prod.mk.inj h
    rw [if_pos rfl, Act.run_bind_of_ok (run_onMachine (Machine.run_drawSalt _)), hname,
      Act.run_bind_of_ok (Act.run_ofExcept _ _), Act.run_bind_of_ok (Act.run_modify _ _)]
  | false =>
    rw [if_neg (by simp [hhashes])] at h
    obtain ⟨hname, rfl⟩ := Prod.mk.inj h
    obtain rfl := Except.ok.inj hname
    rw [if_neg Bool.false_ne_true, Act.run_bind_of_ok (Act.run_pure _ _),
      Act.run_bind_of_ok (Act.run_modify _ _)]

/-- The machine on which a new host got its name has the same files, and one salt less at most. -/
theorem advanced_newName {outcome : Except Fault String} (path : Path)
    (h : newName pinning hostId machine = (outcome, machine')) :
    machine'.files = machine.files ∧ Advanced path machine machine' := by
  unfold newName at h
  split at h
  · obtain ⟨-, rfl⟩ := Prod.mk.inj h
    exact ⟨rfl, .drawn path machine⟩
  · obtain ⟨-, rfl⟩ := Prod.mk.inj h
    exact ⟨rfl, .of_reported (.refl machine)⟩

/-! ## What else changes -/

/-- Appending a record writes to the file of the store or nowhere. -/
theorem advanced_appendRecord (path : Path) (entry : Entry) (machine : Machine) :
    Advanced path machine (run (appendRecord path entry) machine).2 := by
  have happended := appended_appendRecord path entry machine
  generalize run (appendRecord path entry) machine = ended at happended ⊢
  cases happended with
  | barred | textless => exact .of_reported (.refl machine)
  | cut hopened | whole hopened => exact .extend (FileTree.read_of_readToUpdate hopened) _

/-- What is reported about a record changes nothing else. -/
theorem advanced_recordInFile (pinning : Pinning) (hostId : String) (key : HostKey) (name : String)
    (s : Verifying) :
    (run (recordInFile pinning hostId key name) s).2.decision = s.decision ∧
      Advanced pinning.storePath s.machine
        (run (recordInFile pinning hostId key name) s).2.machine := by
  have happended := advanced_appendRecord pinning.storePath { names := [name], key } s.machine
  rcases happend : run (appendRecord pinning.storePath { names := [name], key }) s.machine with
    ⟨outcome, machine⟩
  rw [happend] at happended
  have hreported (event : Event) : Advanced pinning.storePath s.machine
      (Machine.reporting event machine) :=
    happended.trans (.of_reported (Machine.reported_reporting event machine))
  rw [run_recordInFile happend]
  rcases outcome with fault | _
  · dsimp only
    split
    · exact ⟨rfl, hreported _⟩
    · exact ⟨rfl, happended⟩
  · exact ⟨rfl, hreported _⟩

/-- Verifying a host writes to the file of the store and to the log. -/
theorem advanced_verify (h : s.decision = .enforced pinning) (hostId : String) (key : HostKey) :
    Advanced pinning.storePath s.machine (run (verify hostId key) s).2.machine := by
  have hverdict := verdict_verifyBy pinning hostId key
  rw [verify_of_enforced h]
  generalize verifyBy pinning hostId key = act at hverdict ⊢
  cases hverdict with
  | refused => exact .of_reported (.refl _)
  | known => exact .of_reported (Machine.reported_report (.keyMatches hostId _) s.machine)
  | new =>
    rcases hname : newName pinning hostId s.machine with ⟨fault | name, machine⟩
    · rw [run_remember_of_nameless hname]
      exact (advanced_newName _ hname).2
    · rw [run_remember_of_named hname]
      have hfiled := advanced_recordInFile pinning hostId key name
        ⟨.enforced { pinning with store := pinning.store.insert name key }, machine⟩
      exact (advanced_newName _ hname).2.trans hfiled.2

end Verifying

end SecureForward
