import SecureForward.Digest.Sha256
import SecureForward.Encoding.Base64
import SecureForward.HostKey.Curve
import SecureForward.HostKey.Wire

/-!
# Host keys

The public key by which an SSH host is recognised. The type keeps only keys that are well formed,
and two keys are the same when their encodings are; a key has one encoding, whatever text it was
read from.
-/

namespace SecureForward

open SecureForward.Text.Utf8 (Bytes)

/-- The public key of a host. -/
inductive HostKey where
  /-- A key of the RSA kind, with an odd exponent below the modulus. -/
  | rsa (exponent modulus : Nat)
      (valid : 3 ≤ modulus ∧ 3 ≤ exponent ∧ exponent < modulus ∧ exponent % 2 = 1)
  /-- A key on the twisted Edwards curve, kept as its 32 bytes. -/
  | ed25519 (bytes : Bytes) (valid : bytes.length = 32)
  /-- A point on one of the three prime curves. -/
  | ecdsa (curve : Curve) (x y : Nat) (valid : curve.Contains x y)
deriving DecidableEq

namespace HostKey

/-- The type name of an elliptic curve key. -/
def ecdsaTypeName : Curve → String
  | .p256 => "ecdsa-sha2-nistp256"
  | .p384 => "ecdsa-sha2-nistp384"
  | .p521 => "ecdsa-sha2-nistp521"

/-- The type name of a key. -/
def typeName : HostKey → String
  | .rsa .. => "ssh-rsa"
  | .ed25519 .. => "ssh-ed25519"
  | .ecdsa curve .. => ecdsaTypeName curve

/-- The bytes of a text. -/
def textBytes (s : String) : Bytes :=
  Text.Utf8.encode s.toList

/-- The encoding of a key: its type name and the fields of its kind. -/
def encode : HostKey → Bytes
  | .rsa exponent modulus _ =>
    Wire.field (textBytes "ssh-rsa") ++ Wire.field (Wire.positiveBytes exponent)
      ++ Wire.field (Wire.positiveBytes modulus)
  | .ed25519 bytes _ => Wire.field (textBytes "ssh-ed25519") ++ Wire.field bytes
  | .ecdsa curve x y _ =>
    Wire.field (textBytes (ecdsaTypeName curve)) ++ Wire.field (textBytes curve.name)
      ++ Wire.field
        (0x04 :: (Digest.bigEndian curve.size x ++ Digest.bigEndian curve.size y))

/-- The encoding of a key in base64. -/
def base64 (key : HostKey) : String :=
  .ofList (Base64.encode key.encode)

/-- The fingerprint of a key: the SHA-256 digest of its encoding in base64 without padding. -/
def fingerprint (key : HostKey) : String :=
  "SHA256:" ++ .ofList (Base64.encodeUnpadded (Digest.sha256 key.encode))

end HostKey

end SecureForward
