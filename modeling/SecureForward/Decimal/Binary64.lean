/-!
# Double precision

The exact value behind a double, and the double next to an exact value. A finite double is `± m · 2
^ q` with natural `m` below `2 ^ 53` and `-1074 ≤ q`; `round` finds the double next to a quotient of
two naturals, an exact tie going to the even neighbour. All arithmetic is on naturals, so nothing is
rounded twice.
-/

namespace SecureForward.Decimal

/-- What a double stands for. -/
inductive Binary64 where
  /-- The number `± mantissa · 2 ^ exponent`. -/
  | finite (negative : Bool) (mantissa : Nat) (exponent : Int)
  /-- One of the two infinities. -/
  | infinite (negative : Bool)
  /-- No number. -/
  | nan
deriving DecidableEq, Repr

/-- The quotient of two naturals rounded to the nearest natural, a tie to the even one. -/
def roundDiv (num den : Nat) : Nat :=
  let q := num / den
  let r := num % den
  if 2 * r < den then q
  else if den < 2 * r then q + 1
  else q + q % 2

/-- The quotient `num / den` times `base ^ exponent`, as a quotient of naturals. -/
def scale (base num den : Nat) (exponent : Int) : Nat × Nat :=
  if 0 ≤ exponent then (num * base.pow exponent.toNat, den)
  else (num, den * base.pow (-exponent).toNat)

/-- Whether `base ^ exponent` is at most the quotient `num / den`. -/
def reaches (base num den : Nat) (exponent : Int) : Bool :=
  let (n, d) := scale base num den (-exponent)
  d ≤ n

/-- The power of two below which a positive quotient does not lie: the greatest `e` with
`2 ^ e ≤ num / den`. -/
def log2Div (num den : Nat) : Int :=
  let e : Int := (num.log2 : Int) - den.log2
  if reaches 2 num den e then e else e - 1

namespace Binary64

/-- The leading bit of a mantissa, `2 ^ 52`, which the bits of a double leave out. -/
def leadingBit : Nat := 0x10000000000000

/-- The bit of the sign, `2 ^ 63`. -/
def signBit : Nat := 0x8000000000000000

/-- Decodes the bits of a double. -/
def ofBits (bits : Nat) : Binary64 :=
  let negative : Bool := signBit ≤ bits
  let field : Nat := bits / leadingBit % 2048
  let fraction : Nat := bits % leadingBit
  if field = 2047 then if fraction = 0 then .infinite negative else .nan
  else if field = 0 then .finite negative fraction (-1074)
  else .finite negative (leadingBit + fraction) ((field : Int) - 1075)

/-- What a double stands for. -/
def ofFloat (x : Float) : Binary64 :=
  ofBits x.toBits.toNat

/-- The bits of the double next to `num / den`, or `none` if it lies beyond all doubles. -/
def roundBits? (num den : Nat) : Option Nat :=
  if num = 0 then some 0
  else
    let q : Int := max (log2Div num den - 52) (-1074)
    let (n, d) := scale 2 num den (-q)
    let m := roundDiv n d
    let (m, q) := if m = 2 * leadingBit then (leadingBit, q + 1) else (m, q)
    if 971 < q then none
    else if m < leadingBit then some m
    else some ((q + 1075).toNat * leadingBit + (m - leadingBit))

/-- The double next to `± num / den`, or `none` if it lies beyond all doubles. -/
def round? (negative : Bool) (num den : Nat) : Option Float :=
  (roundBits? num den).map fun bits =>
    Float.ofBits (.ofNat (if negative then bits + signBit else bits))

/-- The double next to an integer, or `none` if it lies beyond all doubles. -/
def ofInt? (n : Int) : Option Float :=
  round? (decide (n < 0)) n.natAbs 1

/-- The double next to `± mantissa · 10 ^ exponent`; numbers beyond all doubles become infinite. -/
def ofDecimal (negative : Bool) (mantissa : Nat) (exponent : Int) : Float :=
  let (num, den) := scale 10 mantissa 1 exponent
  (round? negative num den).getD (if negative then -1.0 / 0.0 else 1.0 / 0.0)

end Binary64

end SecureForward.Decimal
