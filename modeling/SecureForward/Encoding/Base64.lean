import SecureForward.Text.Utf8

/-!
# Base64

Encoding with padding, and a lenient decoder: characters outside the alphabet are skipped, and the
padding that completes a group of four ends the input, whatever follows. Input that stops inside a
group is refused.
-/

namespace SecureForward.Base64

open SecureForward.Text.Utf8 (Bytes)

/-- Why a text is not decoded. -/
inductive Error where
  /-- One character is left over after the last complete group; `count` characters carry data. -/
  | loneCharacter (count : Nat)
  /-- Two or three characters are left over and the padding is missing. -/
  | incorrectPadding
deriving DecidableEq, Repr

/-- The error in words. -/
def Error.message : Error → String
  | .loneCharacter count =>
    s!"Invalid base64-encoded string: number of data characters ({count}) cannot be 1 more than " ++
      "a multiple of 4"
  | .incorrectPadding => "Incorrect padding"

/-- The character for six bits. -/
def encodeSextet (n : Nat) : Char :=
  if n < 26 then Char.ofNat (0x41 + n)
  else if n < 52 then Char.ofNat (0x61 + (n - 26))
  else if n < 62 then Char.ofNat (0x30 + (n - 52))
  else if n = 62 then '+'
  else '/'

/-- The six bits that a character of the alphabet stands for. -/
def sextet? (c : Char) : Option Nat :=
  let n := c.toNat
  if 0x41 ≤ n && n ≤ 0x5a then some (n - 0x41)
  else if 0x61 ≤ n && n ≤ 0x7a then some (n - 0x61 + 26)
  else if 0x30 ≤ n && n ≤ 0x39 then some (n - 0x30 + 52)
  else if c = '+' then some 62
  else if c = '/' then some 63
  else none

/-- Encodes bytes in groups of three, the last padded with `=`. -/
def encode : Bytes → List Char
  | [] => []
  | [a] =>
    let n := a.toNat * 16
    [encodeSextet (n / 64), encodeSextet (n % 64), '=', '=']
  | [a, b] =>
    let n := (a.toNat * 256 + b.toNat) * 4
    [encodeSextet (n / 4096), encodeSextet (n / 64 % 64), encodeSextet (n % 64), '=']
  | a :: b :: c :: rest =>
    let n := (a.toNat * 256 + b.toNat) * 256 + c.toNat
    encodeSextet (n / 262144) :: encodeSextet (n / 4096 % 64) :: encodeSextet (n / 64 % 64)
      :: encodeSextet (n % 64) :: encode rest

/-- The bytes without the padding that base64 puts behind them. -/
def encodeUnpadded (bytes : Bytes) : List Char :=
  (encode bytes).filter (· != '=')

/-- How far a group of four has been read. -/
inductive Group where
  /-- No character of the group has been read. -/
  | start
  /-- One character, with its six bits. -/
  | one (bits : Nat)
  /-- Two characters, with the four bits that are left of them, and the padding seen since. -/
  | two (bits : Nat) (pads : Nat)
  /-- Three characters, with the two bits that are left of them. -/
  | three (bits : Nat)

/-- Decodes from inside a group; `done` are the bytes so far, the last one first. -/
def decodeFrom (done : Bytes) : Group → List Char → Except Error Bytes
  | .start, [] => .ok done.reverse
  | .one _, [] => .error (.loneCharacter (done.length / 3 * 4 + 1))
  | .two _ _, [] => .error .incorrectPadding
  | .three _, [] => .error .incorrectPadding
  | group, c :: rest =>
    if c = '=' then
      match group with
      | .start => decodeFrom done .start rest
      | .one bits => decodeFrom done (.one bits) rest
      | .two bits pads => if pads = 0 then decodeFrom done (.two bits 1) rest else .ok done.reverse
      | .three _ => .ok done.reverse
    else
      match sextet? c with
      | none => decodeFrom done group rest
      | some n =>
        match group with
        | .start => decodeFrom done (.one n) rest
        | .one bits => decodeFrom (.ofNat (bits * 4 + n / 16) :: done) (.two (n % 16) 0) rest
        | .two bits _ => decodeFrom (.ofNat (bits * 16 + n / 4) :: done) (.three (n % 4)) rest
        | .three bits => decodeFrom (.ofNat (bits * 64 + n) :: done) .start rest

/-- Decodes a text. -/
def decode (l : List Char) : Except Error Bytes :=
  decodeFrom [] .start l

end SecureForward.Base64
