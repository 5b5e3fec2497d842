import SecureForward.Text.Quoted

/-!
# Templates

A template is a text with placeholders, which begin with a percent sign and stand for the fields of
a record. A placeholder has an optional key in parentheses, flags, a width, a precision and a
conversion, as in `%(name)-8.3s`; two percent signs stand for one. `Template.check` says whether the
template can be filled: it reads character by character, so that of two errors the first one counts.
-/

namespace SecureForward.Text.Template

/-- What a placeholder can stand for. Text of a single character is not distinguished. -/
structure Content where
  /-- The name of its sort. -/
  sort : String
  /-- Whether it counts as a whole number. -/
  isNumber : Bool
deriving DecidableEq, Repr

/-- Why a template cannot be filled. -/
inductive Error where
  /-- A key has no closing parenthesis. -/
  | unclosedKey
  /-- The template ends inside a placeholder. -/
  | unfinished
  /-- There is no field with this key. -/
  | unknownKey (key : String)
  /-- There is nothing left that a placeholder could stand for. -/
  | nothingLeft
  /-- A width or a precision is to be taken from what is no whole number. -/
  | countNotWhole
  /-- A width is too large. -/
  | widthTooBig
  /-- A precision is too large. -/
  | precisionTooBig
  /-- A conversion to decimal digits needs a number. -/
  | numberNeeded (conversion : Char) (sort : String)
  /-- A conversion to octal or hexadecimal digits needs a whole number. -/
  | wholeNeeded (conversion : Char) (sort : String)
  /-- A conversion with decimal places needs a number. -/
  | realNeeded (sort : String)
  /-- A conversion to a character needs a whole number. -/
  | characterNeeded
  /-- There is no such conversion. -/
  | unknownConversion (conversion : Char) (index : Nat)
deriving DecidableEq, Repr

/-- The error in words. -/
def Error.message : Error → String
  | .unclosedKey => "incomplete format key"
  | .unfinished => "incomplete format"
  | .unknownKey key => quoted key
  | .nothingLeft => "not enough arguments for format string"
  | .countNotWhole => "* wants int"
  | .widthTooBig => "width too big"
  | .precisionTooBig => "precision too big"
  | .numberNeeded conversion sort => s!"%{conversion} format: a real number is required, not {sort}"
  | .wholeNeeded conversion sort => s!"%{conversion} format: an integer is required, not {sort}"
  | .realNeeded sort => s!"must be real number, not {sort}"
  | .characterNeeded => "%c requires int or char"
  | .unknownConversion conversion index =>
    let shown := if 0x1f ≤ conversion.toNat && conversion.toNat < 0x7f then conversion else '?'
    let code := String.ofList (hexDigits 1 conversion.toNat)
    s!"unsupported format character '{shown}' (0x{code}) at index {index}"

/-- Whether the error is an unacceptable value, and neither a value of the wrong sort nor a name
that is not found. -/
def Error.isValue : Error → Bool
  | .unclosedKey | .unfinished | .widthTooBig | .precisionTooBig | .unknownConversion .. => true
  | _ => false

/-- Where in a template the next character stands. -/
inductive Spot where
  /-- Outside placeholders. -/
  | plain
  /-- After a percent sign. -/
  | opened
  /-- In a key, inside so many parentheses of its own; its characters so far, the last one first. -/
  | key (depth : Nat) (read : List Char)
  /-- Among the flags. -/
  | flags
  /-- After digits of the width. -/
  | width (n : Nat)
  /-- After the width. -/
  | afterWidth
  /-- After the point. -/
  | point
  /-- After digits of the precision. -/
  | precision (n : Nat)
  /-- After the precision. -/
  | afterPrecision
  /-- After the size letter, before the conversion. -/
  | size
deriving DecidableEq, Repr

/-- What has been read of a template. -/
structure Reading where
  /-- Where the next character stands. -/
  spot : Spot
  /-- The number of characters before it. -/
  index : Nat
  /-- What the next placeholder stands for, unless it is used up. -/
  content : Option Content
deriving DecidableEq, Repr

/-- The largest width. -/
def widthLimit : Nat := 0x7fffffffffffffff

/-- The largest precision. -/
def precisionLimit : Nat := 0x7fffffff

/-- Checks that a conversion is possible. -/
def checkConversion (index : Nat) (content : Content) (conversion : Char) : Except Error Unit :=
  if ['s', 'r', 'a'].contains conversion then .ok ()
  else if ['d', 'i', 'u'].contains conversion then
    if content.isNumber then .ok () else .error (.numberNeeded conversion content.sort)
  else if ['o', 'x', 'X'].contains conversion then
    if content.isNumber then .ok () else .error (.wholeNeeded conversion content.sort)
  else if ['e', 'E', 'f', 'F', 'g', 'G'].contains conversion then
    if content.isNumber then .ok () else .error (.realNeeded content.sort)
  else if conversion = 'c' then
    if content.isNumber then .ok () else .error .characterNeeded
  else .error (.unknownConversion conversion index)

namespace Reading

/-- The reading with the next character at another spot. -/
def go (reading : Reading) (spot : Spot) : Except Error Reading :=
  .ok { reading with spot, index := reading.index + 1 }

/-- Takes a width or a precision from the content. -/
def takeCount (reading : Reading) (spot : Spot) : Except Error Reading :=
  match reading.content with
  | none => .error .nothingLeft
  | some content =>
    if content.isNumber then { reading with content := none }.go spot else .error .countNotWhole

/-- Reads the conversion. -/
def readConversion (reading : Reading) (c : Char) : Except Error Reading :=
  match reading.content with
  | none => .error .nothingLeft
  | some content => do
    checkConversion reading.index content c
    { reading with content := none }.go .plain

/-- Reads what follows the precision: a size letter, which means nothing, or the conversion. -/
def readSize (reading : Reading) (c : Char) : Except Error Reading :=
  if ['h', 'l', 'L'].contains c then reading.go .size else reading.readConversion c

/-- Reads what follows the width. -/
def readPoint (reading : Reading) (c : Char) : Except Error Reading :=
  if c = '.' then reading.go .point else reading.readSize c

/-- Reads one more digit of a number that may not exceed a limit. -/
def readDigit (reading : Reading) (limit n : Nat) (c : Char) (spot : Nat → Spot) (e : Error) :
    Except Error Reading :=
  let m := 10 * n + (c.toNat - '0'.toNat)
  if limit < m then .error e else reading.go (spot m)

/-- Reads a flag, or what follows the flags. -/
def readFlag (reading : Reading) (c : Char) : Except Error Reading :=
  if ['-', '+', ' ', '#', '0'].contains c then reading.go .flags
  else if c = '*' then reading.takeCount .afterWidth
  else if c.isDigit then reading.readDigit widthLimit 0 c .width .widthTooBig
  else reading.readPoint c

/-- Reads a character of a key, in which parentheses are balanced. The key says what the placeholder
stands for. -/
def readKey (fields : List (String × Content)) (reading : Reading) (depth : Nat)
    (read : List Char) (c : Char) : Except Error Reading :=
  if c = '(' then reading.go (.key (depth + 1) (c :: read))
  else if c ≠ ')' then reading.go (.key depth (c :: read))
  else
    match depth with
    | depth + 1 => reading.go (.key depth (c :: read))
    | 0 =>
      let key := String.ofList read.reverse
      match fields.lookup key with
      | none => .error (.unknownKey key)
      | some content => { reading with content := some content }.go .flags

/-- Reads one character. -/
def read (fields : List (String × Content)) (reading : Reading) (c : Char) :
    Except Error Reading :=
  match reading.spot with
  | .plain => reading.go (if c = '%' then .opened else .plain)
  | .opened =>
    if c = '%' then reading.go .plain
    else if c = '(' then reading.go (.key 0 [])
    else reading.readFlag c
  | .key depth read => reading.readKey fields depth read c
  | .flags => reading.readFlag c
  | .width n =>
    if c.isDigit then reading.readDigit widthLimit n c .width .widthTooBig
    else reading.readPoint c
  | .afterWidth => reading.readPoint c
  | .point =>
    if c = '*' then reading.takeCount .afterPrecision
    else if c.isDigit then reading.readDigit precisionLimit 0 c .precision .precisionTooBig
    else reading.readSize c
  | .precision n =>
    if c.isDigit then reading.readDigit precisionLimit n c .precision .precisionTooBig
    else reading.readSize c
  | .afterPrecision => reading.readSize c
  | .size => reading.readConversion c

/-- Ends the reading. -/
def finish (reading : Reading) : Except Error Unit :=
  match reading.spot with
  | .plain => .ok ()
  | .key .. => .error .unclosedKey
  | _ => .error .unfinished

end Reading

/-- Checks that a template can be filled from fields. A placeholder without a key stands for the
whole record, and only the first one may. -/
def check (record : Content) (fields : List (String × Content)) (template : List Char) :
    Except Error Unit := do
  let start : Reading := { spot := .plain, index := 0, content := some record }
  (← template.foldlM (Reading.read fields) start).finish

end SecureForward.Text.Template
