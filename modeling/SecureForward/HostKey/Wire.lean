import SecureForward.Digest.Block

/-!
# Wire format

Keys travel as a sequence of fields, each a length of four bytes and as many bytes. A reader that
runs past the end of the input reads zeros, as long as it asks for less than a mebibyte.
-/

namespace SecureForward.Wire

open SecureForward.Text.Utf8 (Bytes)
open SecureForward.Digest (bigEndian natOfBytes)

/-- The most that is filled up with zeros, exclusive. -/
def fillLimit : Nat := 0x100000

/-- The next `count` bytes and the bytes after them. -/
def take (count : Nat) (bytes : Bytes) : Bytes × Bytes :=
  let got := bytes.take count
  let filled :=
    if count < fillLimit then got ++ List.replicate (count - got.length) 0 else got
  (filled, bytes.drop count)

/-- The next field and the bytes after it. -/
def takeField (bytes : Bytes) : Bytes × Bytes :=
  let (size, rest) := take 4 bytes
  take (natOfBytes size) rest

/-- A field that holds these bytes. -/
def field (bytes : Bytes) : Bytes :=
  bigEndian 4 bytes.length ++ bytes

/-- The bytes of a natural number without leading zeros. -/
def natBytes (n : Nat) : Bytes :=
  bigEndian ((n.log2 + 8) / 8) n

/-- The bytes of a positive integer in two's complement, as few as hold it. -/
def positiveBytes (n : Nat) : Bytes :=
  let bytes := natBytes n
  match bytes with
  | [] => []
  | b :: _ => if 0x80 ≤ b then 0 :: bytes else bytes

/-- The integer that bytes denote in two's complement. -/
def integer (bytes : Bytes) : Int :=
  match bytes with
  | [] => 0
  | b :: _ =>
    if 0x80 ≤ b then (natOfBytes bytes : Int) - Nat.pow 256 bytes.length else natOfBytes bytes

end SecureForward.Wire
