import SecureForward.Config.Settings
import SecureForward.Machine

/-!
# Setting up a log

A log writes to the console and, if a file is named, to that file as well. A file that cannot be
opened is reported on the console, and the log goes on without it.
-/

namespace SecureForward

/-- A log that was set up. -/
structure Log where
  /-- The name under which it writes. -/
  name : String
  /-- The level that was chosen for it. -/
  level : Level
  /-- The path of its file. -/
  file : Option Path
deriving DecidableEq, Repr

namespace Log

/-- The name of the log of the whole program. -/
def programName : String := "graphtunnel"

/-- The name of the topmost log. -/
def topmostName : String := "root"

/-- Opens the log file at a path, without taking anything away from it. -/
def openFile (path : Path) : Act Machine Unit := do
  if path.toList.contains '\x00' then throw .nullInPath
  match (← get).files.readToAppend path with
  | .ok old => modify fun machine => { machine with files := machine.files.extend path old [] }
  | .error e => throw (.access e (toString path))

/-- The file that is named for a log, or else in the settings, relative to the current directory. -/
def filePath? (settings : Settings) (named : Option String) (current : String) : Option Path :=
  let name := (named.filter (!·.isEmpty)).getD settings.logFile
  if name.isEmpty then none
  else some (Path.ofAbsolute (Path.join current.toList name.toList))

/-- Sets up a log. -/
def setUp (settings : Settings) (name : String) (file : Option String) : Act Machine Log := do
  let level ← Act.ofExcept (Level.choose settings.logLevel)
  let isTopmost : Bool := name.isEmpty || name = topmostName
  let name := if isTopmost then topmostName else name
  let threshold := level.threshold isTopmost
  modify fun machine => { machine with console := some threshold, logFile := none }
  match filePath? settings file (← get).place.current with
  | none => return { name, level, file := none }
  | some path =>
    match ← (openFile path).attempt with
    | .ok () =>
      modify fun machine => { machine with logFile := some { path, threshold } }
      return { name, level, file := some path }
    | .error fault =>
      if !fault.isSystem then throw fault
      let event := Event.logFileFailed fault.message
      Machine.say name event.level event.message
      return { name, level, file := none }

end Log

end SecureForward
