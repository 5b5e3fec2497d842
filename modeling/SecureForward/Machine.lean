import SecureForward.Act
import SecureForward.Digest.Sha1
import SecureForward.Log.Event
import SecureForward.Log.File

/-!
# The machine

What the program finds around it, the network apart: where paths start, the files, the random salts
that are drawn for hashed names, and the log. Everything that is reported is kept in `log`; what is
important enough is also written as a line to the console and to a log file. An event with a number
that cannot be written is not reported.
-/

namespace SecureForward

open SecureForward.Text.Utf8 (Bytes)

/-- The surroundings of the program. -/
structure Machine where
  /-- Where paths start. -/
  place : Place
  /-- The files. -/
  files : FileTree
  /-- The salts that will be drawn. -/
  salts : List Bytes
  /-- The time as it is written in front of a line. -/
  clock : String
  /-- All that was reported, the first event first. -/
  log : List Event
  /-- The least level of what is written to the console, if anything is. -/
  console : Option Level
  /-- The lines on the console, the first line first. -/
  consoleLines : List String
  /-- The log file. -/
  logFile : Option LogFile
deriving DecidableEq, Repr

/-- The line that a log writes. -/
def logLine (clock source : String) (level : Level) (message : String) : String :=
  s!"{clock} - {source} - {level.name} - {message}"

namespace Machine

/-- The machine after a line was written to the console, if it takes lines of this level. -/
def withConsoleLine (machine : Machine) (level : Level) (line : String) : Machine :=
  if machine.console.any (Level.keeps · level) then
    { machine with consoleLines := machine.consoleLines ++ [line] }
  else machine

/-- The machine after a line was written to the log file, if it takes lines of this level. -/
def withFileLine (machine : Machine) (level : Level) (line : String) : Machine :=
  match machine.logFile with
  | some file =>
    if file.threshold.keeps level then
      { machine with files := Log.append file.path (line.toList ++ ['\n']) machine.files }
    else machine
  | none => machine

/-- Writes a line to the log. -/
def say (source : String) (level : Level) (message : String) : Act Machine Unit :=
  modify fun machine =>
    let line := logLine machine.clock source level message
    (machine.withConsoleLine level line).withFileLine level line

/-- Reports an event. -/
def report (event : Event) : Act Machine Unit := do
  if !event.isWritable then throw (.integer .unwritable)
  say event.source event.level event.message
  modify fun machine => { machine with log := machine.log ++ [event] }

/-- The salt of which nothing but its length matters, for a machine that has none left. -/
def plainSalt : Bytes :=
  (List.range Digest.sha1Size).map UInt8.ofNat

/-- Draws a salt. -/
def drawSalt : Act Machine Bytes :=
  modifyGet fun machine =>
    match machine.salts with
    | [] => (plainSalt, machine)
    | salt :: salts => (salt, { machine with salts })

/-- The path that a text denotes. -/
def resolvePath (text : String) : Act Machine Path := do
  match (← get).place.resolve? text with
  | some path => return path
  | none => throw .homeUnknown

/-- The content of the file at a path. -/
def readFile (path : Path) : Act Machine Bytes := do
  if path.toList.contains '\x00' then throw .nullInPath
  match (← get).files.read path with
  | .ok content => return content
  | .error e => throw (.access e (toString path))

/-- Whether a file stands at a path. -/
def isFile (path : Path) : Act Machine Bool := do
  match (← get).files.isFile path with
  | .ok answer => return answer
  | .error e => throw (.access e (toString path))

/-- Opens the file at a path to be read and written, and gives its content. -/
def openToUpdate (path : Path) : Act Machine Bytes := do
  if path.toList.contains '\x00' then throw .nullInPath
  match (← get).files.readToUpdate path with
  | .ok content => return content
  | .error e => throw (.access e (toString path))

/-- Puts text behind the content of a file that is open. -/
def appendToFile (path : Path) (old : Bytes) (text : List Char) : Act Machine Unit := do
  let bytes := Text.Utf8.encode text
  let files := (← get).files
  modify fun machine => { machine with files := files.extend path old bytes }
  if files.lacksRoom bytes then throw (.outside .system AccessError.noRoom.numbered)

end Machine

end SecureForward
