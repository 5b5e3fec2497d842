import SecureForward.HostKey.Basic

/-!
# Reading host keys

A key is read in two steps. The type that stands beside it decides which kind is expected; the type
inside the encoding decides what follows. A certificate is read like the key it certifies, once the
random field at its head has been passed over.
-/

namespace SecureForward.HostKey

open SecureForward.Text.Utf8 (Bytes DecodeError)

/-- The kinds of keys that can be read. -/
inductive Kind where
  /-- RSA keys. -/
  | rsa
  /-- Keys on the twisted Edwards curve. -/
  | ed25519
  /-- Keys on one of the three prime curves. -/
  | ecdsa
deriving DecidableEq, Repr

/-- The ending of the type names of certificates. -/
def certificateSuffix : String := "-cert-v01@openssh.com"

/-- The type names by which a kind is announced beside a key. -/
def Kind.announced : Kind → List String
  | .rsa =>
    let plain := ["ssh-rsa", "rsa-sha2-256", "rsa-sha2-512"]
    plain ++ plain.map (· ++ certificateSuffix)
  | .ed25519 => ["ssh-ed25519"]
  | .ecdsa => Curve.all.map ecdsaTypeName

/-- The kind that a type name announces. -/
def Kind.ofTypeName? (name : String) : Option Kind :=
  [Kind.rsa, .ecdsa, .ed25519].find? fun kind => kind.announced.contains name

/-- The type names that an encoding of this kind may begin with. -/
def Kind.accepted : Kind → List String
  | .rsa => ["ssh-rsa"]
  | .ed25519 => ["ssh-ed25519"]
  | .ecdsa => Curve.all.map ecdsaTypeName

/-- What a kind is called in messages. -/
def Kind.label : Kind → String
  | .rsa => "RSAKey"
  | .ed25519 => "Ed25519Key"
  | .ecdsa => "ECDSAKey"

/-- Why an encoding is not a key. -/
inductive Error where
  /-- A name inside the encoding is not UTF-8. -/
  | unreadableName (e : DecodeError)
  /-- The encoding is of another type than the expected kind. -/
  | wrongType (kind : Kind) (found : String)
  /-- A number that has to be positive is negative. -/
  | negativeNumber
  /-- The modulus is too small. -/
  | modulusTooSmall
  /-- The exponent is too small, or not below the modulus. -/
  | exponentOutOfRange
  /-- The exponent is even. -/
  | evenExponent
  /-- The key has not 32 bytes. -/
  | wrongSize
  /-- The curve is not the one that the type names. -/
  | wrongCurve (found : String)
  /-- The bytes are no point on the curve. -/
  | invalidPoint
deriving DecidableEq

/-- The error in words. -/
def Error.message : Error → String
  | .unreadableName e => e.message
  | .wrongType kind found => s!"Invalid key (class: {kind.label}, data type: {found}"
  | .negativeNumber => "can't convert negative int to unsigned"
  | .modulusTooSmall => "n must be >= 3."
  | .exponentOutOfRange => "e must be >= 3 and < n."
  | .evenExponent => "e must be odd."
  | .wrongSize => "The key must be exactly 32 bytes long"
  | .wrongCurve found => s!"Can't handle curve of type {found}"
  | .invalidPoint => "Invalid public key"

/-- The next field as text, and the bytes after it. -/
def takeText (bytes : Bytes) : Except Error (String × Bytes) :=
  let (field, rest) := Wire.takeField bytes
  match Text.Utf8.decode field with
  | .ok l => .ok (.ofList l, rest)
  | .error e => .error (.unreadableName e)

/-- The plain type name at the head of an encoding and the bytes where the key fields start. -/
def takeHead (kind : Kind) (bytes : Bytes) : Except Error (String × Bytes) := do
  let (name, rest) ← takeText bytes
  if kind.accepted.contains name then return (name, rest)
  match kind.accepted.find? fun plain => plain ++ certificateSuffix == name with
  | some plain => return (plain, (Wire.takeField rest).2)
  | none => throw (.wrongType kind name)

/-- An RSA key with the given numbers. -/
def ofNumbers (exponent modulus : Int) : Except Error HostKey :=
  if exponent < 0 || modulus < 0 then .error .negativeNumber
  else
    let e := exponent.toNat
    let n := modulus.toNat
    if hn : n < 3 then .error .modulusTooSmall
    else if he : e < 3 ∨ n ≤ e then .error .exponentOutOfRange
    else if ho : e % 2 = 0 then .error .evenExponent
    else .ok (.rsa e n (by omega))

/-- The point that bytes denote, with both coordinates or with the first one and a parity. -/
def point? (curve : Curve) (bytes : Bytes) : Option (Nat × Nat) :=
  match bytes with
  | [] => none
  | mark :: rest =>
    let x := Digest.natOfBytes (rest.take curve.size)
    if mark = 0x04 then
      if rest.length = 2 * curve.size then
        some (x, Digest.natOfBytes (rest.drop curve.size))
      else none
    else if mark = 0x02 || mark = 0x03 then
      if rest.length = curve.size then (curve.solve? x (mark = 0x03)).map fun y => (x, y)
      else none
    else none

/-- Reads the fields of an elliptic curve key of type `name`. -/
def ofPointFields (name : String) (bytes : Bytes) : Except Error HostKey := do
  let (found, rest) ← takeText bytes
  match Curve.all.find? fun curve => ecdsaTypeName curve == name && curve.name == found with
  | none => throw (.wrongCurve found)
  | some curve =>
    match point? curve (Wire.takeField rest).1 with
    | none => throw .invalidPoint
    | some (x, y) =>
      if valid : curve.Contains x y then return .ecdsa curve x y valid else throw .invalidPoint

/-- Reads a key of the expected kind. Bytes after the last field are ignored. -/
def ofBytes (kind : Kind) (bytes : Bytes) : Except Error HostKey := do
  let (name, rest) ← takeHead kind bytes
  match kind with
  | .rsa =>
    let (exponent, rest) := Wire.takeField rest
    let (modulus, _) := Wire.takeField rest
    ofNumbers (Wire.integer exponent) (Wire.integer modulus)
  | .ed25519 =>
    let (key, _) := Wire.takeField rest
    if valid : key.length = 32 then return .ed25519 key valid else throw .wrongSize
  | .ecdsa => ofPointFields name rest

end SecureForward.HostKey
