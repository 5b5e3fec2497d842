import SecureForward.Text.Utf8

/-!
# Message blocks

What the digests have in common: a message is padded to whole blocks of 64 bytes, and a block is
read as sixteen words of 32 bits, the most significant byte first.
-/

namespace SecureForward.Digest

open SecureForward.Text.Utf8 (Bytes)

/-- The `count` low bytes of a number, the most significant first. -/
def bigEndian (count n : Nat) : Bytes :=
  (List.range count).map fun i => .ofNat (n >>> (8 * (count - 1 - i)) % 256)

/-- The number that bytes denote, the most significant first. -/
def natOfBytes (bytes : Bytes) : Nat :=
  bytes.foldl (fun n b => n * 256 + b.toNat) 0

/-- The message with a one bit, zeros and its length in bits, a multiple of 64 bytes in all. -/
def padded (message : Bytes) : Bytes :=
  let zeros := (119 - message.length % 64) % 64
  message ++ 0x80 :: (List.replicate zeros 0 ++ bigEndian 8 (message.length * 8))

/-- The pieces of `size + 1` elements each, the last one shorter if the elements run out. -/
def pieces {α : Type} (size : Nat) (l : List α) : List (List α) :=
  match l with
  | [] => []
  | a :: rest => (a :: rest.take size) :: pieces size (rest.drop size)
termination_by l.length
decreasing_by
  simp only [List.length_drop, List.length_cons]
  omega

/-- The blocks of a message. -/
def blocks (message : Bytes) : List Bytes :=
  pieces 63 (padded message)

/-- The words of a block. -/
def words (block : Bytes) : List UInt32 :=
  (pieces 3 block).map fun bytes => .ofNat (natOfBytes bytes)

/-- The bytes of a word. -/
def wordBytes (w : UInt32) : Bytes :=
  bigEndian 4 w.toNat

/-- Rotates a word to the left. -/
def rotateLeft (w : UInt32) (n : UInt32) : UInt32 :=
  (w <<< n) ||| (w >>> (32 - n))

/-- Rotates a word to the right. -/
def rotateRight (w : UInt32) (n : UInt32) : UInt32 :=
  (w >>> n) ||| (w <<< (32 - n))

end SecureForward.Digest
