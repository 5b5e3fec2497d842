import SecureForward.Fault

/-!
# Log levels

A record has a level, a number of which the common ones have names. The level that a log is kept at
is chosen by name.
-/

namespace SecureForward

/-- The importance of a record. -/
structure Level where
  /-- The greater, the more important. -/
  number : Int
deriving DecidableEq, Repr

namespace Level

/-- The program cannot go on. -/
def critical : Level := ⟨50⟩

/-- Something failed. -/
def error : Level := ⟨40⟩

/-- Something deserves attention. -/
def warning : Level := ⟨30⟩

/-- Something happened as it should. -/
def info : Level := ⟨20⟩

/-- Something that matters only for finding errors. -/
def debug : Level := ⟨10⟩

/-- No level of its own. -/
def unset : Level := ⟨0⟩

/-- The name under which a level is shown. -/
def name (level : Level) : String :=
  if level = critical then "CRITICAL"
  else if level = error then "ERROR"
  else if level = warning then "WARNING"
  else if level = info then "INFO"
  else if level = debug then "DEBUG"
  else if level = unset then "NOTSET"
  else s!"Level {level.number}"

/-- The levels by the names under which they can be chosen. -/
def named : List (String × Level) :=
  [("CRITICAL", critical), ("FATAL", critical), ("ERROR", error), ("WARN", warning),
    ("WARNING", warning), ("INFO", info), ("DEBUG", debug), ("NOTSET", unset)]

/-- The level that a name chooses, small letters or capitals. Most other names choose `info`; the
two that denote a line format and the table of styles are refused. -/
def choose (name : String) : Except Fault Level :=
  let name := String.ofList (Text.upper name.toList)
  if name = "BASIC_FORMAT" then .error (.levelIsText "%(levelname)s:%(name)s:%(message)s")
  else if name = "_STYLES" then .error .levelIsTable
  else .ok ((named.lookup name).getD info)

/-- The least level of records that are kept by a log whose own level is this one. A log without a
level keeps warnings and what is more important, the topmost one excepted. -/
def threshold (isTopmost : Bool) (level : Level) : Level :=
  if level = unset && !isTopmost then warning else level

/-- Whether a log with this threshold keeps records of this level. -/
def keeps (threshold level : Level) : Bool :=
  0 < level.number && threshold.number ≤ level.number

end Level

end SecureForward
