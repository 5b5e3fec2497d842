import SecureForward.Decimal.Shortest
import SecureForward.Fault
import SecureForward.Text.Lower

/-!
# Property values

Connection settings arrive as values of any sort. Each sort has a text, a truth value, and, if it
denotes one, a whole number.
-/

namespace SecureForward

open SecureForward.Text (isBlank lower quoted trim trimmed)

/-- A value of a connection property. -/
inductive Value where
  /-- No value. -/
  | null
  /-- A truth value. -/
  | bool (b : Bool)
  /-- A whole number. -/
  | int (n : Int)
  /-- A double. -/
  | float (x : Float)
  /-- A text. -/
  | text (s : String)
  /-- A sequence of values. -/
  | list (values : List Value)
  /-- Values by name, in order. -/
  | map (entries : List (String × Value))

namespace Value

/-- The name of the sort of a value. -/
def sort : Value → String
  | .null => "NoneType"
  | .bool _ => "bool"
  | .int _ => "int"
  | .float _ => "float"
  | .text _ => "str"
  | .list _ => "list"
  | .map _ => "dict"

mutual

/-- The value as it is shown inside a message. -/
def shown : Value → String
  | .null => "None"
  | .bool b => if b then "True" else "False"
  | .int n => toString n
  | .float x => Decimal.shortest x
  | .text s => quoted s
  | .list values => "[" ++ ", ".intercalate (shownAll values) ++ "]"
  | .map entries => "\x7b" ++ ", ".intercalate (shownEntries entries) ++ "\x7d"

/-- The values of a sequence as they are shown. -/
def shownAll : List Value → List String
  | [] => []
  | value :: values => shown value :: shownAll values

/-- The named values as they are shown. -/
def shownEntries : List (String × Value) → List String
  | [] => []
  | (name, value) :: entries => (quoted name ++ ": " ++ shown value) :: shownEntries entries

end

mutual

/-- Whether all whole numbers in a value can be written. -/
def isWritable : Value → Bool
  | .int n => Decimal.isWritable n
  | .list values => areWritable values
  | .map entries => entriesAreWritable entries
  | _ => true

/-- Whether all whole numbers in the values of a sequence can be written. -/
def areWritable : List Value → Bool
  | [] => true
  | value :: values => isWritable value && areWritable values

/-- Whether all whole numbers in named values can be written. -/
def entriesAreWritable : List (String × Value) → Bool
  | [] => true
  | (_, value) :: entries => isWritable value && entriesAreWritable entries

end

/-- Refuses to write a value with a whole number that cannot be written. -/
def checkWritable (value : Value) : Except Fault Unit :=
  if value.isWritable then .ok () else .error (.integer .unwritable)

/-- The text of a value: a text stands for itself. -/
def toText : Value → String
  | .text s => s
  | value => value.shown

/-- Whether a value counts as given: it is not nothing, not false, not zero and not empty. -/
def isGiven : Value → Bool
  | .null => false
  | .bool b => b
  | .int n => n != 0
  | .float x => x != 0
  | .text s => !s.isEmpty
  | .list values => !values.isEmpty
  | .map entries => !entries.isEmpty

/-- The double without its fractional part. -/
def wholePart (x : Float) : Except Fault Int :=
  match Decimal.Binary64.ofFloat x with
  | .nan => .error .wholePartOfNaN
  | .infinite _ => .error .wholePartOfInfinity
  | .finite negative mantissa exponent =>
    let (num, den) := Decimal.binaryQuotient mantissa exponent
    let n : Int := (num / den : Nat)
    .ok (if negative then -n else n)

/-- The whole number that a value denotes. -/
def toInteger : Value → Except Fault Int
  | .bool b => .ok (if b then 1 else 0)
  | .int n => .ok n
  | .float x => wholePart x
  | .text s =>
    match Decimal.readInteger s with
    | .ok n => .ok n
    | .error e => .error (.integer e)
  | value => .error (.notNumeric value.sort)

/-- The words that mean yes. -/
def affirmatives : List String := ["1", "true", "yes", "on"]

/-- Whether a text means yes, small letters or capitals, with or without blanks around it. -/
def meansYes (s : String) : Bool :=
  affirmatives.contains (.ofList (lower (trim s.toList)))

/-- The truth value of a switch that is on or off by default. Nothing and a blank text leave the
default, any other text is off unless it means yes. -/
def toSwitch (default : Bool) : Value → Bool
  | .null => default
  | .text s => if (trim s.toList).isEmpty then default else meansYes s
  | value => value.isGiven

/-- The text of a value that is given, without blanks around it; the empty text if none is given. -/
def toTrimmed (value : Value) : String :=
  if value.isGiven then trimmed value.toText else ""

/-- The text of a value without blanks around it, if anything is left of it. -/
def toOptional : Value → Option String
  | .null => none
  | value =>
    let s := trimmed value.toText
    if s.isEmpty then none else some s

end Value

/-- Named values, as a client hands them over. -/
abbrev Properties := List (String × Value)

namespace Properties

/-- The value of a name, `null` if there is none. -/
def value (properties : Properties) (name : String) : Value :=
  (properties.lookup name).getD .null

end Properties

end SecureForward
