import SecureForward.Text.Quoted

/-!
# UTF-8

Encoding and strict decoding. A decoding error names the bytes that cannot be read and why: a byte
that starts no character, a sequence that is broken off by a byte that does not continue it, or one
that is cut short by the end of the input.
-/

namespace SecureForward.Text.Utf8

/-- Bytes in their order. -/
abbrev Bytes := List UInt8

/-- Why bytes are not UTF-8. -/
inductive Flaw where
  /-- The byte starts no character. -/
  | invalidStart
  /-- The byte after these does not continue the character that they start. -/
  | invalidContinuation
  /-- The input ends inside a character. -/
  | unexpectedEnd
deriving DecidableEq, Repr

/-- A decoding error: the bytes concerned, where they start, and what is wrong with them. -/
structure DecodeError where
  /-- The position of the first byte. -/
  start : Nat
  /-- The first byte. -/
  byte : UInt8
  /-- How many bytes are concerned. -/
  count : Nat
  /-- What is wrong. -/
  flaw : Flaw
deriving DecidableEq, Repr

/-- The reason in words. -/
def Flaw.message : Flaw → String
  | .invalidStart => "invalid start byte"
  | .invalidContinuation => "invalid continuation byte"
  | .unexpectedEnd => "unexpected end of data"

/-- The error in words. -/
def DecodeError.message (e : DecodeError) : String :=
  let reason := e.flaw.message
  if e.count = 1 then
    let byte := String.ofList (hexDigits 2 e.byte.toNat)
    s!"'utf-8' codec can't decode byte 0x{byte} in position {e.start}: {reason}"
  else
    s!"'utf-8' codec can't decode bytes in position {e.start}-{e.start + e.count - 1}: {reason}"

/-- The bytes of one character. -/
def encodeChar (c : Char) : Bytes :=
  let n := c.toNat
  if n < 0x80 then [.ofNat n]
  else if n < 0x800 then [.ofNat (0xc0 + n / 0x40), .ofNat (0x80 + n % 0x40)]
  else if n < 0x10000 then
    [.ofNat (0xe0 + n / 0x1000), .ofNat (0x80 + n / 0x40 % 0x40), .ofNat (0x80 + n % 0x40)]
  else
    [.ofNat (0xf0 + n / 0x40000), .ofNat (0x80 + n / 0x1000 % 0x40),
      .ofNat (0x80 + n / 0x40 % 0x40), .ofNat (0x80 + n % 0x40)]

/-- The bytes of a text. -/
def encode (l : List Char) : Bytes :=
  l.flatMap encodeChar

/-- Whether a byte continues a character. -/
def isContinuation (b : UInt8) : Bool :=
  0x80 ≤ b && b < 0xc0

/-- The bytes that may stand second after the lead byte of a longer character. The narrower ranges
keep out overlong forms, surrogates and code points beyond the last. -/
def isSecond (lead b : UInt8) : Bool :=
  if lead = 0xe0 then 0xa0 ≤ b && b < 0xc0
  else if lead = 0xed then 0x80 ≤ b && b < 0xa0
  else if lead = 0xf0 then 0x90 ≤ b && b < 0xc0
  else if lead = 0xf4 then 0x80 ≤ b && b < 0x90
  else isContinuation b

/-- How many bytes the character has that a lead byte starts. -/
def width? (lead : UInt8) : Option Nat :=
  if lead < 0x80 then some 1
  else if 0xc2 ≤ lead && lead < 0xe0 then some 2
  else if 0xe0 ≤ lead && lead < 0xf0 then some 3
  else if 0xf0 ≤ lead && lead < 0xf5 then some 4
  else none

/-- The six bits that a continuation byte carries. -/
def payload (b : UInt8) : Nat :=
  b.toNat % 0x40

/-- One character at the head of the bytes and the bytes after it, or the number of bytes concerned
and what is wrong with them. -/
def decodeChar (lead : UInt8) (rest : Bytes) : Except (Nat × Flaw) (Char × Bytes) :=
  match width? lead with
  | none => .error (1, .invalidStart)
  | some 1 => .ok (Char.ofNat lead.toNat, rest)
  | some 2 =>
    match rest with
    | [] => .error (1, .unexpectedEnd)
    | b :: rest =>
      if isContinuation b then .ok (Char.ofNat (lead.toNat % 0x20 * 0x40 + payload b), rest)
      else .error (1, .invalidContinuation)
  | some 3 =>
    match rest with
    | [] => .error (1, .unexpectedEnd)
    | b :: rest =>
      if !isSecond lead b then .error (1, .invalidContinuation)
      else
        match rest with
        | [] => .error (2, .unexpectedEnd)
        | c :: rest =>
          if isContinuation c then
            .ok (Char.ofNat ((lead.toNat % 0x10 * 0x40 + payload b) * 0x40 + payload c), rest)
          else .error (2, .invalidContinuation)
  | some _ =>
    match rest with
    | [] => .error (1, .unexpectedEnd)
    | b :: rest =>
      if !isSecond lead b then .error (1, .invalidContinuation)
      else
        match rest with
        | [] => .error (2, .unexpectedEnd)
        | c :: rest =>
          if !isContinuation c then .error (2, .invalidContinuation)
          else
            match rest with
            | [] => .error (3, .unexpectedEnd)
            | d :: rest =>
              if isContinuation d then
                .ok (Char.ofNat
                  (((lead.toNat % 0x8 * 0x40 + payload b) * 0x40 + payload c) * 0x40 + payload d),
                  rest)
              else .error (3, .invalidContinuation)

theorem length_of_decodeChar {lead : UInt8} {rest after : Bytes} {c : Char}
    (h : decodeChar lead rest = .ok (c, after)) : after.length ≤ rest.length := by
  unfold decodeChar at h
  grind

/-- Decodes bytes of which the first stands at position `start`. -/
def decodeFrom (start : Nat) : Bytes → Except DecodeError (List Char)
  | [] => .ok []
  | lead :: rest =>
    match h : decodeChar lead rest with
    | .error (count, flaw) => .error { start, byte := lead, count, flaw }
    | .ok (c, after) => do
      let l ← decodeFrom (start + (rest.length + 1 - after.length)) after
      return c :: l
termination_by bytes => bytes.length
decreasing_by
  have := length_of_decodeChar h
  simp only [List.length_cons]
  omega

/-- Decodes bytes. -/
def decode (bytes : Bytes) : Except DecodeError (List Char) :=
  decodeFrom 0 bytes

/-- What can be read of bytes that arrive in chunks: the text up to the chunk with the error, and
the error, at the position that it has in this chunk and what was left over from the one before. -/
structure Arrived where
  /-- The text that was handed on. -/
  text : List Char
  /-- The error that ended it. -/
  error : Option DecodeError

/-- Whether bytes are the first two of the three that would make a surrogate. -/
def isHalfSurrogate : Bytes → Bool
  | [lead, b] => lead = 0xed && 0xa0 ≤ b && b < 0xc0
  | _ => false

/-- Decodes bytes that may go on, and gives the bytes at the end that only begin a character. A
surrogate that is cut short waits for more bytes like any character. -/
def decodeOpen (bytes : Bytes) : Except DecodeError (List Char × Bytes) :=
  match decode bytes with
  | .ok l => .ok (l, [])
  | .error e =>
    let held := bytes.drop e.start
    if e.flaw = .unexpectedEnd || isHalfSurrogate held then
      .ok ((decode (bytes.take e.start)).toOption.getD [], held)
    else .error e

/-- Decodes chunks of which the first comes behind bytes that begin a character. -/
def decodeChunks (held : Bytes) : List Bytes → Arrived
  | [] =>
    match decode held with
    | .ok l => { text := l, error := none }
    | .error e => { text := [], error := some e }
  | chunk :: chunks =>
    match decodeOpen (held ++ chunk) with
    | .ok (l, held) =>
      let arrived := decodeChunks held chunks
      { arrived with text := l ++ arrived.text }
    | .error e => { text := [], error := some e }

/-- How many bytes are read at a time. -/
def chunkSize : Nat := 8192

/-- Bytes in chunks; the last one may be short or empty. -/
def chunks (bytes : Bytes) : List Bytes :=
  (List.range (bytes.length / chunkSize + 1)).map fun i =>
    (bytes.drop (i * chunkSize)).take chunkSize

/-- Decodes bytes that arrive in chunks. -/
def decodeStream (bytes : Bytes) : Arrived :=
  decodeChunks [] (chunks bytes)

end SecureForward.Text.Utf8
