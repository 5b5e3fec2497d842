import SecureForward.Text.Blank
import SecureForward.Text.Digit
import SecureForward.Text.Quoted

/-!
# Reading whole numbers

A whole number is written with decimal digits of any script, an optional sign, single underscores
between digits and white space around it. A numeral of more than 4300 digits is refused, and so is
everything else, in words that show the text. A number that takes more digits is not written either.
-/

namespace SecureForward.Decimal

open SecureForward.Text

/-- The most digits that a numeral may have. -/
def digitLimit : Nat := 4300

/-- Why a text is not read as a whole number, or a whole number not written. -/
inductive IntegerError where
  /-- The numeral has too many digits. -/
  | tooManyDigits (count : Nat)
  /-- The text is not a numeral. -/
  | malformed (text : String)
  /-- The number takes too many digits. -/
  | unwritable
deriving DecidableEq, Repr

/-- The error in words; a long text is shown in part. -/
def IntegerError.message : IntegerError → String
  | .tooManyDigits count =>
    s!"Exceeds the limit (4300 digits) for integer string conversion: value has {count} digits; " ++
      "use sys.set_int_max_str_digits() to increase the limit"
  | .unwritable =>
    "Exceeds the limit (4300 digits) for integer string conversion; " ++
      "use sys.set_int_max_str_digits() to increase the limit"
  | .malformed text =>
    let shown := String.ofList ((quote text.toList).take 200)
    s!"invalid literal for int() with base 10: {shown}"

/-- Whether a whole number takes no more digits than a numeral may have. -/
def isWritable (n : Int) : Bool :=
  (Nat.toDigits 10 n.natAbs).length ≤ digitLimit

/-- The number that digits denote, the first being the most significant. -/
def ofDigits (digits : List Nat) : Nat :=
  digits.foldl (fun n d => 10 * n + d) 0

/-- The digits at the head of a text, with single underscores between them, and the text after them;
`none` if an underscore stands elsewhere. `fresh` says that no digit stands before. -/
def takeDigits (fresh : Bool) : List Char → Option (List Nat × List Char)
  | [] => some ([], [])
  | '_' :: l =>
    if fresh then none
    else
      match l with
      | [] => none
      | c :: l =>
        match digitValue? c with
        | none => none
        | some d => (takeDigits false l).map fun (digits, rest) => (d :: digits, rest)
  | c :: l =>
    match digitValue? c with
    | none => some ([], c :: l)
    | some d => (takeDigits false l).map fun (digits, rest) => (d :: digits, rest)

/-- Reads a whole number. -/
def readInteger (text : String) : Except IntegerError Int :=
  let l := strip isSpace text.toList
  let (negative, l) :=
    match l with
    | '-' :: l => (true, l)
    | '+' :: l => (false, l)
    | l => (false, l)
  match takeDigits true l with
  | none => .error (.malformed text)
  | some (digits, rest) =>
    if digitLimit < digits.length then .error (.tooManyDigits digits.length)
    else if digits.isEmpty || !rest.isEmpty then .error (.malformed text)
    else if negative then .ok (-(ofDigits digits : Int))
    else .ok (ofDigits digits)

end SecureForward.Decimal
