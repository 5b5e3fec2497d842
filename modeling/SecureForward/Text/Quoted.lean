import SecureForward.Text.Printable

/-!
# Quoted text

A value inside a message is shown between quotes, on one line and with nothing invisible in it.
Single quotes are used unless the text holds a single quote and no double quote. The quote itself,
the backslash and all characters that are not printable are escaped.
-/

namespace SecureForward.Text

/-- The hexadecimal digits of `n`, small letters, padded with zeros to at least `width`. -/
def hexDigits (width n : Nat) : List Char :=
  let digits := Nat.toDigits 16 n
  List.replicate (width - digits.length) '0' ++ digits

/-- The quote that goes around a text. -/
def quoteFor (l : List Char) : Char :=
  if l.contains '\'' && !l.contains '"' then '"' else '\''

/-- One character as it stands between two `quote`s. -/
def escape (quote c : Char) : List Char :=
  if c = quote || c = '\\' then ['\\', c]
  else if c = '\n' then ['\\', 'n']
  else if c = '\r' then ['\\', 'r']
  else if c = '\t' then ['\\', 't']
  else if isPrintable c then [c]
  else if c.toNat < 0x100 then '\\' :: 'x' :: hexDigits 2 c.toNat
  else if c.toNat < 0x10000 then '\\' :: 'u' :: hexDigits 4 c.toNat
  else '\\' :: 'U' :: hexDigits 8 c.toNat

/-- The text between quotes. -/
def quote (l : List Char) : List Char :=
  let mark := quoteFor l
  mark :: (l.flatMap (escape mark) ++ [mark])

/-- The text between quotes. -/
def quoted (s : String) : String :=
  .ofList (quote s.toList)

end SecureForward.Text
