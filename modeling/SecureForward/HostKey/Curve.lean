/-!
# Elliptic curves

The three curves that host keys use, all of the form `y² = x³ - 3x + b` over a prime field whose
prime is three more than a multiple of four. Points are kept in affine coordinates.
-/

namespace SecureForward

/-- A curve that a host key may lie on. -/
inductive Curve where
  /-- The curve over a prime of 256 bits. -/
  | p256
  /-- The curve over a prime of 384 bits. -/
  | p384
  /-- The curve over a prime of 521 bits. -/
  | p521
deriving DecidableEq, Repr

namespace Curve

/-- All curves. -/
def all : List Curve := [.p256, .p384, .p521]

/-- The name of the curve inside a key. -/
def name : Curve → String
  | .p256 => "nistp256"
  | .p384 => "nistp384"
  | .p521 => "nistp521"

/-- How many bytes a coordinate takes. -/
def size : Curve → Nat
  | .p256 => 32
  | .p384 => 48
  | .p521 => 66

/-- The prime of the field. -/
def prime : Curve → Nat
  | .p256 => 1 <<< 256 - 1 <<< 224 + 1 <<< 192 + 1 <<< 96 - 1
  | .p384 => 1 <<< 384 - 1 <<< 128 - 1 <<< 96 + 1 <<< 32 - 1
  | .p521 => 1 <<< 521 - 1

/-- The constant term of the equation. -/
def constant : Curve → Nat
  | .p256 => 0x5ac635d8aa3a93e7b3ebbd55769886bc651d06b0cc53b0f63bce3c3e27d2604b
  | .p384 =>
    0xb3312fa7e23ee7e4988e056be3f82d19181d9c6efe8141120314088f5013875ac656398d8a2ed19d2a85c8edd3ec2aef
  | .p521 =>
    0x0051953eb9618e1c9a1f929a21a0b68540eea2da725b99b315f3b8b489918ef109e156193951ec7e937b1652c0bd3bb1bf073573df883d2c34f1ef451fd46b503f00

/-- The right side of the equation at `x`. -/
def rightSide (c : Curve) (x : Nat) : Nat :=
  (x * x * x + (c.prime - 3) * x + c.constant) % c.prime

/-- A pair of coordinates is a point when both are reduced and satisfy the equation. -/
def Contains (c : Curve) (x y : Nat) : Prop :=
  x < c.prime ∧ y < c.prime ∧ y * y % c.prime = c.rightSide x

instance (c : Curve) (x y : Nat) : Decidable (c.Contains x y) :=
  inferInstanceAs (Decidable (_ ∧ _ ∧ _))

/-- The power `base ^ exponent` modulo `modulus`, by repeated squaring. -/
def powMod (base exponent modulus : Nat) : Nat :=
  if exponent = 0 then 1 % modulus
  else
    let half := powMod (base * base % modulus) (exponent / 2) modulus
    if exponent % 2 = 1 then half * base % modulus else half
termination_by exponent
decreasing_by omega

/-- The second coordinate with the given parity of a point whose first coordinate is `x`, if the
curve has such a point. Since the prime is three more than a multiple of four, a square root is a
power. -/
def solve? (c : Curve) (x : Nat) (odd : Bool) : Option Nat :=
  let root := powMod (c.rightSide x) ((c.prime + 1) / 4) c.prime
  let y := if (root % 2 == 1) == odd then root else c.prime - root
  if c.Contains x y then some y else none

end Curve

end SecureForward
