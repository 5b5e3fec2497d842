import SecureForward.Text.Cut

/-!
# Blank characters

The blanks are the white space of Unicode together with the four information separators U+001C to
U+001F. Values that a person writes are trimmed of them, and the fields of a record are separated
by runs of them. Around a numeral only the white space is blank.
-/

namespace SecureForward.Text

/-- The code points of the white space of Unicode. -/
def spaceCodes : List Nat :=
  [0x09, 0x0a, 0x0b, 0x0c, 0x0d, 0x20, 0x85, 0xa0, 0x1680, 0x2000, 0x2001, 0x2002, 0x2003, 0x2004,
    0x2005, 0x2006, 0x2007, 0x2008, 0x2009, 0x200a, 0x2028, 0x2029, 0x202f, 0x205f, 0x3000]

/-- Whether a character is white space. -/
def isSpace (c : Char) : Bool :=
  spaceCodes.contains c.toNat

/-- Whether a character is one of the four information separators. -/
def isSeparator (c : Char) : Bool :=
  0x1c ≤ c.toNat && c.toNat ≤ 0x1f

/-- Whether a character is blank. -/
def isBlank (c : Char) : Bool :=
  isSpace c || isSeparator c

/-- Removes the characters of class `p` at both ends. -/
def strip (p : Char → Bool) (l : List Char) : List Char :=
  ((l.dropWhile p).reverse.dropWhile p).reverse

/-- Removes the blanks at both ends. -/
def trim (l : List Char) : List Char :=
  strip isBlank l

/-- The text without the blanks at both ends. -/
def trimmed (s : String) : String :=
  .ofList (trim s.toList)

/-- The fields of a text that are separated by runs of blanks. -/
def words (l : List Char) : List (List Char) :=
  (split isBlank l).filter fun field => !field.isEmpty

end SecureForward.Text
