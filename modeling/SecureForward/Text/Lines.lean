import SecureForward.Text.Cut

/-!
# Lines

A line ends with a line feed, a carriage return, or both in this order. `unifyBreaks` writes each of
these as one line feed; `lines` gives the lines, without an empty last one after a final line break.
-/

namespace SecureForward.Text

/-- The text with every line break written as one line feed. -/
def unifyBreaks : List Char → List Char
  | [] => []
  | '\r' :: '\n' :: l => '\n' :: unifyBreaks l
  | '\r' :: l => '\n' :: unifyBreaks l
  | c :: l => c :: unifyBreaks l

/-- The lines of a text whose line breaks are line feeds. -/
def lines (l : List Char) : List (List Char) :=
  let fields := split (· = '\n') l
  if fields.getLast? = some [] then fields.dropLast else fields

/-- The lines that are complete although the text after them could not be read. A carriage return at
the end completes no line, since a line feed might follow it. -/
def completeLines (l : List Char) : List (List Char) :=
  let l := if l.getLast? = some '\r' then l.dropLast else l
  (split (· = '\n') (unifyBreaks l)).dropLast

end SecureForward.Text
