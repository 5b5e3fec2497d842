import SecureForward.Machine
import SecureForward.Proofs.Act
import SecureForward.Proofs.Log.File

/-!
# Runs on the machine

What the single acts on the machine end with. Questions about paths and files leave the machine as
it is; a report keeps everything but the log and what it writes to. `Reported` says this of two
machines, for a log whose file is open, and `Holds` follows one file, which is not part of the log,
through these acts.
-/

namespace SecureForward.Machine

open Act (run)
open SecureForward.Text.Utf8 (Bytes)

/-- The path that a text denotes, if there is one; the machine stays as it is. -/
theorem run_resolvePath (text : String) (machine : Machine) :
    run (resolvePath text) machine =
      (match machine.place.resolve? text with
        | some path => .ok path
        | none => .error .homeUnknown, machine) := by
  unfold resolvePath
  rw [Act.run_bind_of_ok (Act.run_get _)]
  cases machine.place.resolve? text <;> rfl

/-- A text denotes the path that it denotes at the place of the machine. -/
theorem run_resolvePath_eq_ok_iff {text : String} {machine machine' : Machine} {path : Path} :
    run (resolvePath text) machine = (.ok path, machine') ↔
      machine.place.resolve? text = some path ∧ machine = machine' := by
  rw [run_resolvePath]
  cases machine.place.resolve? text with
  | none => simp
  | some found => simp

/-- Whether a file stands at a path, if that can be told; the machine stays as it is. -/
theorem run_isFile (path : Path) (machine : Machine) :
    run (isFile path) machine =
      (match machine.files.isFile path with
        | .ok answer => .ok answer
        | .error e => .error (.access e (toString path)), machine) := by
  unfold isFile
  rw [Act.run_bind_of_ok (Act.run_get _)]
  cases machine.files.isFile path <;> rfl

/-- What is answered about a file is so in the files of the machine. -/
theorem run_isFile_eq_ok_iff {path : Path} {machine machine' : Machine} {answer : Bool} :
    run (isFile path) machine = (.ok answer, machine') ↔
      machine.files.isFile path = .ok answer ∧ machine = machine' := by
  rw [run_isFile]
  cases machine.files.isFile path with
  | error e => simp
  | ok found => simp

/-- What the file at a path holds, if it can be read; the machine stays as it is. -/
theorem run_readFile (path : Path) (machine : Machine) :
    run (readFile path) machine =
      (if '\x00' ∈ path.toList then .error .nullInPath
        else (machine.files.read path).mapError (.access · (toString path)), machine) := by
  unfold readFile
  by_cases h : '\x00' ∈ path.toList
  · rw [if_pos (List.contains_iff_mem.2 h), if_pos h]
    rfl
  · rw [if_neg (by simpa using h), if_neg h, Act.run_bind_of_ok (Act.run_get _)]
    cases machine.files.read path <;> rfl

/-- Reading a file leaves the machine as it is. -/
theorem run_readFile_snd (path : Path) (machine : Machine) :
    (run (readFile path) machine).2 = machine := by
  rw [run_readFile]

/-- What is read is the content of the file at the path. -/
theorem run_readFile_eq_ok_iff {path : Path} {machine machine' : Machine} {content : Bytes} :
    run (readFile path) machine = (.ok content, machine') ↔
      '\x00' ∉ path.toList ∧ machine.files.read path = .ok content ∧ machine' = machine := by
  rw [run_readFile]
  by_cases h : '\x00' ∈ path.toList
  · simp [h]
  · rw [if_neg h]
    rcases machine.files.read path with e | content'
    · change (Except.error (Fault.access e (toString path)), machine) = _ ↔ _
      simp
    · change (Except.ok content', machine) = _ ↔ _
      simp [h, eq_comm]

/-- What an open file holds, if it can be opened to be read and written; the machine stays as it
is. -/
theorem run_openToUpdate (path : Path) (machine : Machine) :
    run (openToUpdate path) machine =
      (if '\x00' ∈ path.toList then .error .nullInPath
        else (machine.files.readToUpdate path).mapError (.access · (toString path)), machine) := by
  unfold openToUpdate
  by_cases h : '\x00' ∈ path.toList
  · rw [if_pos (List.contains_iff_mem.2 h), if_pos h]
    rfl
  · rw [if_neg (by simpa using h), if_neg h, Act.run_bind_of_ok (Act.run_get _)]
    cases machine.files.readToUpdate path <;> rfl

/-- What is read of an open file is the content of the file at the path. -/
theorem run_openToUpdate_eq_ok_iff {path : Path} {machine machine' : Machine} {content : Bytes} :
    run (openToUpdate path) machine = (.ok content, machine') ↔
      '\x00' ∉ path.toList ∧ machine.files.readToUpdate path = .ok content ∧
        machine' = machine := by
  rw [run_openToUpdate]
  by_cases h : '\x00' ∈ path.toList
  · simp [h]
  · rw [if_neg h]
    rcases machine.files.readToUpdate path with e | content'
    · change (Except.error (Fault.access e (toString path)), machine) = _ ↔ _
      simp
    · change (Except.ok content', machine) = _ ↔ _
      simp [h, eq_comm]

/-- The machine once text was put behind the old content of a file, as far as there was room for
it. -/
def extend (machine : Machine) (path : Path) (old : Bytes) (text : List Char) : Machine :=
  { machine with files := machine.files.extend path old (Text.Utf8.encode text) }

/-- Text is put behind the content of an open file, and it is told if there was no room for all of
it. -/
theorem run_appendToFile (path : Path) (old : Bytes) (text : List Char) (machine : Machine) :
    run (appendToFile path old text) machine =
      (if machine.files.lacksRoom (Text.Utf8.encode text) then
        .error (.outside .system AccessError.noRoom.numbered) else .ok (),
        machine.extend path old text) := by
  unfold appendToFile extend
  rw [Act.run_bind_of_ok (Act.run_get _), Act.run_bind_of_ok (Act.run_modify _ _)]
  split <;> rfl

/-- The file of the log, if it has one, is there. -/
def LogOpen (machine : Machine) : Prop :=
  ∀ file, machine.logFile = some file →
    ∃ content, machine.files.lookup file.path = .ok (.file content)

/-- A path is neither that of the log file nor one that leads through a copy of it that is put
aside. -/
def LogsElsewhere (machine : Machine) (path : Path) : Prop :=
  ∀ file, machine.logFile = some file → Log.Apart file.path path.names

/-- What stands at any path but that of the log is the same on two machines, and so is what does not
concern the log. -/
structure Reported (machine machine' : Machine) : Prop where
  /-- Paths start at the same place. -/
  place : machine'.place = machine.place
  /-- The same salts will be drawn. -/
  salts : machine'.salts = machine.salts
  /-- The log writes to the same file. -/
  logFile : machine'.logFile = machine.logFile
  /-- This file stays there. -/
  logOpen : machine.LogOpen → machine'.LogOpen
  /-- Other paths lead to the same. -/
  lookup : machine.LogOpen → ∀ path, machine.LogsElsewhere path →
    machine'.files.lookup path = machine.files.lookup path
  /-- The other files are read as before. -/
  read : machine.LogOpen → ∀ path, machine.LogsElsewhere path →
    machine'.files.read path = machine.files.read path
  /-- Where there is room for everything, there still is. -/
  room : machine.files.room = none → machine'.files.room = none

namespace Reported

variable {machine machine' machine'' : Machine}

/-- Nothing was reported yet. -/
theorem refl (machine : Machine) : Reported machine machine :=
  ⟨rfl, rfl, rfl, id, fun _ _ _ => rfl, fun _ _ _ => rfl, id⟩

/-- The log still goes elsewhere. -/
theorem logsElsewhere (h : Reported machine machine') {path : Path}
    (helse : machine.LogsElsewhere path) : machine'.LogsElsewhere path :=
  fun file hfile => helse file (h.logFile ▸ hfile)

/-- One report after the other. -/
theorem trans (h : Reported machine machine') (h' : Reported machine' machine'') :
    Reported machine machine'' where
  place := h'.place.trans h.place
  salts := h'.salts.trans h.salts
  logFile := h'.logFile.trans h.logFile
  logOpen hopen := h'.logOpen (h.logOpen hopen)
  lookup hopen path hpath := by
    rw [h'.lookup (h.logOpen hopen) path (h.logsElsewhere hpath), h.lookup hopen path hpath]
  read hopen path hpath := by
    rw [h'.read (h.logOpen hopen) path (h.logsElsewhere hpath), h.read hopen path hpath]
  room hroom := h'.room (h.room hroom)

/-- A line on the console. -/
theorem withConsoleLine (machine : Machine) (level : Level) (line : String) :
    Reported machine (machine.withConsoleLine level line) := by
  unfold Machine.withConsoleLine
  split
  · exact ⟨rfl, rfl, rfl, id, fun _ _ _ => rfl, fun _ _ _ => rfl, id⟩
  · exact refl machine

/-- A line in the log file. -/
theorem append {file : LogFile} (hfile : machine.logFile = some file) (line : List Char) :
    Reported machine { machine with files := Log.append file.path line machine.files } where
  place := rfl
  salts := rfl
  logFile := rfl
  logOpen hopen := by
    intro file' hfile'
    obtain ⟨content, hcontent⟩ := hopen file hfile
    rw [← Option.some.inj (hfile.symm.trans hfile')]
    exact Log.lookup_append hcontent line
  lookup hopen path hpath := by
    obtain ⟨content, hcontent⟩ := hopen file hfile
    exact (Log.reads_append_of_apart hcontent (hpath file hfile) line).1
  read hopen path hpath := by
    obtain ⟨content, hcontent⟩ := hopen file hfile
    exact (Log.reads_append_of_apart hcontent (hpath file hfile) line).2
  room hroom := Log.room_append hroom line

/-- A line in the log file, if the log has one that takes it. -/
theorem withFileLine (machine : Machine) (level : Level) (line : String) :
    Reported machine (machine.withFileLine level line) := by
  unfold Machine.withFileLine
  split
  · rename_i file hfile
    split
    · exact append hfile _
    · exact refl machine
  · exact refl machine

end Reported

/-- A line of the log. -/
theorem reported_say (source : String) (level : Level) (message : String) (machine : Machine) :
    Reported machine (run (say source level message) machine).2 :=
  (Reported.withConsoleLine machine _ _).trans (Reported.withFileLine _ _ _)

/-- The machine once an event was reported. -/
def reporting (event : Event) (machine : Machine) : Machine :=
  let said := (run (say event.source event.level event.message) machine).2
  { said with log := said.log ++ [event] }

/-- A report succeeds if it can be put into words, and changes nothing otherwise. -/
theorem run_report (event : Event) (machine : Machine) :
    run (report event) machine =
      if event.isWritable then (.ok (), reporting event machine)
      else (.error (.integer .unwritable), machine) := by
  unfold report
  cases event.isWritable <;> rfl

/-- A report that can be put into words succeeds. -/
theorem run_report_of_writable {event : Event} (h : event.isWritable = true) (machine : Machine) :
    run (report event) machine = (.ok (), reporting event machine) := by
  rw [run_report, if_pos h]

/-- An event of the log. -/
theorem reported_reporting (event : Event) (machine : Machine) :
    Reported machine (reporting event machine) := by
  have hsay := reported_say event.source event.level event.message machine
  exact ⟨hsay.place, hsay.salts, hsay.logFile, hsay.logOpen, hsay.lookup, hsay.read, hsay.room⟩

/-- A report, whether it succeeds or not. -/
theorem reported_report (event : Event) (machine : Machine) :
    Reported machine (run (report event) machine).2 := by
  rw [run_report]
  split
  · exact reported_reporting event machine
  · exact .refl machine

/-- A report does not change where paths start. -/
theorem run_report_place (event : Event) (machine : Machine) :
    (run (report event) machine).2.place = machine.place :=
  (reported_report event machine).place

/-- A report is the last event of the log. -/
theorem reporting_log (event : Event) (machine : Machine) :
    (reporting event machine).log = machine.log ++ [event] := by
  have hconsole (level : Level) (line : String) :
      (machine.withConsoleLine level line).log = machine.log := by
    unfold withConsoleLine
    split <;> rfl
  have hfile (machine : Machine) (level : Level) (line : String) :
      (machine.withFileLine level line).log = machine.log := by
    unfold withFileLine
    split
    · split <;> rfl
    · rfl
  change ((machine.withConsoleLine _ _).withFileLine _ _).log ++ [event] = _
  rw [hfile, hconsole]

/-- The salt that is drawn next. -/
def nextSalt (machine : Machine) : Bytes :=
  machine.salts.head?.getD plainSalt

/-- The machine once this salt is used up. -/
def drawn (machine : Machine) : Machine :=
  { machine with salts := machine.salts.tail }

/-- Drawing a salt uses it up. -/
theorem run_drawSalt (machine : Machine) :
    run drawSalt machine = (.ok machine.nextSalt, machine.drawn) := by
  unfold drawSalt nextSalt drawn
  rw [Act.run_modifyGet]
  rcases hsalts : machine.salts with _ | ⟨salt, salts⟩
  · have hsame : { machine with salts := [] } = machine := by rw [← hsalts]
    dsimp only [List.head?_nil, Option.getD_none, List.tail_nil]
    rw [hsame]
  · rfl

/-- A file can be read and has this content, and it is not part of the log. -/
structure Holds (machine : Machine) (path : Path) (content : Bytes) : Prop where
  /-- The content is read. -/
  read : machine.files.read path = .ok content
  /-- The log goes elsewhere. -/
  apart : machine.LogsElsewhere path

variable {machine : Machine} {path : Path} {content : Bytes}

/-- What is put at the end of the file follows what was there, as far as there is room for it. -/
theorem Holds.extend (h : Holds machine path content) (text : List Char) :
    Holds (machine.extend path content text) path
      (content ++ machine.files.fitting (Text.Utf8.encode text)) :=
  ⟨FileTree.read_extend h.read _ _, h.apart⟩

/-- A line of the log changes nothing about the file. -/
theorem Holds.withFileLine (h : Holds machine path content) (level : Level) (line : String) :
    Holds (machine.withFileLine level line) path content := by
  unfold Machine.withFileLine
  split
  · rename_i file hfile
    split
    · exact ⟨Log.read_append_of_read h.read (h.apart file hfile) _, h.apart⟩
    · exact h
  · exact h

/-- A line on the console changes nothing about the file. -/
theorem Holds.withConsoleLine (h : Holds machine path content) (level : Level) (line : String) :
    Holds (machine.withConsoleLine level line) path content := by
  unfold Machine.withConsoleLine
  split
  · exact ⟨h.read, h.apart⟩
  · exact h

/-- A report changes nothing about the file. -/
theorem Holds.reporting (h : Holds machine path content) (event : Event) :
    Holds (reporting event machine) path content := by
  have hsay := (h.withConsoleLine event.level
    (logLine machine.clock event.source event.level event.message)).withFileLine event.level
    (logLine machine.clock event.source event.level event.message)
  exact ⟨hsay.read, hsay.apart⟩

end SecureForward.Machine
