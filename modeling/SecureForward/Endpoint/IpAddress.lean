import SecureForward.Text.Cut
import SecureForward.Text.Digit

/-!
# Network addresses in text

Which texts are addresses of version 4, four decimal numbers, and of version 6, eight groups of
hexadecimal digits of which a run may be left out.
-/

namespace SecureForward.IpAddress

open SecureForward.Text (cut isAsciiDigit split)

/-- Whether a text is one of the four numbers of a version 4 address: up to three digits, no leading
zero, at most 255. -/
def isOctet (l : List Char) : Bool :=
  !l.isEmpty && l.all isAsciiDigit && l.length ≤ 3 && (l == ['0'] || l.head? != some '0')
    && Nat.ofDigitChars 10 l 0 ≤ 255

/-- Whether a text is a version 4 address. -/
def isVersion4 (l : List Char) : Bool :=
  let octets := split (· = '.') l
  octets.length == 4 && octets.all isOctet

/-- Whether a character is a hexadecimal digit. -/
def isHexDigit (c : Char) : Bool :=
  isAsciiDigit c || ('a' ≤ c && c ≤ 'f') || ('A' ≤ c && c ≤ 'F')

/-- Whether a text is a group of a version 6 address. -/
def isGroup (l : List Char) : Bool :=
  !l.isEmpty && l.length ≤ 4 && l.all isHexDigit

/-- The groups of a version 6 address; a version 4 address in the last place counts as two. -/
def groups? (l : List Char) : Option (List (List Char)) :=
  let groups := split (· = ':') l
  match groups.getLast? with
  | none => none
  | some last =>
    if groups.length < 3 then none
    else if last.contains '.' then
      if isVersion4 last then some (groups.dropLast ++ [['0'], ['0']]) else none
    else some groups

/-- Whether groups without an empty one make an address. -/
def areComplete (groups : List (List Char)) : Bool :=
  groups.length == 8 && groups.all isGroup

/-- Whether groups make an address when the run left out stands between `high` and `low`. A side
that is nothing but the end of the text has one empty group. -/
def areAround (high low : List (List Char)) : Bool :=
  let high := if high = [[]] then [] else high
  let low := if low = [[]] then [] else low
  high.length + low.length < 8 && high.all isGroup && low.all isGroup

/-- Whether groups make an address: at most one of them is empty, the ends apart. -/
def areGroups (groups : List (List Char)) : Bool :=
  let inner := groups.tail.dropLast
  match inner.findIdx? List.isEmpty with
  | none => areComplete groups
  | some index => areAround (groups.take (index + 1)) (groups.drop (index + 2))

/-- Whether a text is a version 6 address, with or without the zone it is valid in. -/
def isVersion6 (l : List Char) : Bool :=
  let (address, zone) := cut '%' l
  let zoneFits : Bool := zone.all fun zone => !zone.isEmpty && !zone.contains '%'
  zoneFits && !l.contains '/' && (groups? address).any areGroups

end SecureForward.IpAddress
