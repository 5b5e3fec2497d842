import SecureForward.Digest.Block

/-!
# SHA-1

The digest under which host names are hidden in a trust store, and the keyed digest built on it.
-/

namespace SecureForward.Digest

open SecureForward.Text.Utf8 (Bytes)

namespace Sha1

/-- The five words that are carried from block to block. -/
structure State where
  /-- The first word. -/
  a : UInt32
  /-- The second word. -/
  b : UInt32
  /-- The third word. -/
  c : UInt32
  /-- The fourth word. -/
  d : UInt32
  /-- The fifth word. -/
  e : UInt32

/-- The state before the first block. -/
def start : State :=
  { a := 0x67452301, b := 0xefcdab89, c := 0x98badcfe, d := 0x10325476, e := 0xc3d2e1f0 }

/-- Appends `count` words to a schedule that is held newest first: each is made of four earlier
ones. -/
def extend : Nat → List UInt32 → List UInt32
  | 0, schedule => schedule
  | count + 1, schedule =>
    let earlier (n : Nat) := schedule.getD (n - 1) 0
    let w := rotateLeft (earlier 3 ^^^ earlier 8 ^^^ earlier 14 ^^^ earlier 16) 1
    extend count (w :: schedule)

/-- The eighty words of a block's schedule. -/
def schedule (block : Bytes) : List UInt32 :=
  (extend 64 (words block).reverse).reverse

/-- One round with word `w`. -/
def round (s : State) (w : UInt32) (index : Nat) : State :=
  let (f, k) : UInt32 × UInt32 :=
    if index < 20 then ((s.b &&& s.c) ||| (~~~s.b &&& s.d), 0x5a827999)
    else if index < 40 then (s.b ^^^ s.c ^^^ s.d, 0x6ed9eba1)
    else if index < 60 then ((s.b &&& s.c) ||| (s.b &&& s.d) ||| (s.c &&& s.d), 0x8f1bbcdc)
    else (s.b ^^^ s.c ^^^ s.d, 0xca62c1d6)
  { a := rotateLeft s.a 5 + f + s.e + k + w, b := s.a, c := rotateLeft s.b 30, d := s.c, e := s.d }

/-- The state after one more block. -/
def compress (s : State) (block : Bytes) : State :=
  let t := (schedule block).zipIdx.foldl (fun t (w, index) => round t w index) s
  { a := s.a + t.a, b := s.b + t.b, c := s.c + t.c, d := s.d + t.d, e := s.e + t.e }

end Sha1

/-- The SHA-1 digest, 20 bytes. -/
def sha1 (message : Bytes) : Bytes :=
  let s := (blocks message).foldl Sha1.compress Sha1.start
  [s.a, s.b, s.c, s.d, s.e].flatMap wordBytes

/-- The length of a SHA-1 digest. -/
def sha1Size : Nat := 20

/-- The SHA-1 digest of a message under a key. -/
def hmacSha1 (key message : Bytes) : Bytes :=
  let key := if 64 < key.length then sha1 key else key
  let key := key ++ List.replicate (64 - key.length) 0
  sha1 (key.map (· ^^^ 0x5c) ++ sha1 (key.map (· ^^^ 0x36) ++ message))

end SecureForward.Digest
