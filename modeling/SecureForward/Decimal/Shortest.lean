import SecureForward.Decimal.Binary64

/-!
# Decimal text of doubles

`shortest` writes the fewest digits that read back as the same double, `fixed` a given number of
decimal places of its exact value. Both round on exact quotients of naturals.
-/

namespace SecureForward.Decimal

/-- The digits of a positive number and the power of ten of the first: `d₀.d₁d₂… · 10 ^
exponent`. -/
structure Digits where
  /-- The digits, most significant first. -/
  digits : List Char
  /-- The power of ten of the first digit. -/
  exponent : Int
deriving DecidableEq, Repr

/-- The greatest `e` with `10 ^ e ≤ num / den`, for a positive quotient. -/
def log10Div (num den : Nat) : Int :=
  let digitCount (n : Nat) : Int := (Nat.toDigits 10 n).length
  let e := digitCount num - digitCount den
  if reaches 10 num den e then e else e - 1

/-- A natural multiple of a power of ten. -/
structure Candidate where
  /-- The factor. -/
  factor : Nat
  /-- The power of ten. -/
  power : Int

/-- The candidate as a quotient of naturals. -/
def Candidate.quotient (c : Candidate) : Nat × Nat :=
  scale 10 c.factor 1 c.power

/-- The digits of a candidate, without zeros at the end. -/
def Candidate.digits (c : Candidate) : Digits :=
  let all := Nat.toDigits 10 c.factor
  let kept := (all.reverse.dropWhile (· = '0')).reverse
  { digits := if kept.isEmpty then ['0'] else kept, exponent := c.power + (all.length - 1 : Int) }

/-- The multiple of `10 ^ (e - count + 1)` next to `num / den` that reads back as the double with
these bits, if one of the two neighbours does. -/
def candidate? (num den bits : Nat) (e : Int) (count : Nat) : Option Candidate :=
  let power := e - (count : Int) + 1
  let (n, d) := scale 10 num den (-power)
  let low := n / d
  let readsBack (factor : Nat) : Bool :=
    let (a, b) := Candidate.quotient { factor, power }
    Binary64.roundBits? a b == some bits
  let near := roundDiv n d
  let far := if near = low then low + 1 else low
  if readsBack near then some { factor := near, power }
  else if readsBack far then some { factor := far, power }
  else none

/-- The fewest digits, of `count` or more, that read back as the double with these bits. Seventeen
digits always do. -/
def fewest (num den bits : Nat) (e : Int) : Nat → Candidate
  | 0 => (candidate? num den bits e 17).getD { factor := 0, power := 0 }
  | left + 1 =>
    match candidate? num den bits e (17 - (left + 1)) with
    | some c => c
    | none => fewest num den bits e left

/-- The quotient of naturals that `mantissa · 2 ^ exponent` is. -/
def binaryQuotient (mantissa : Nat) (exponent : Int) : Nat × Nat :=
  scale 2 mantissa 1 exponent

/-- How an exponent is written: the sign always, and at least two digits. -/
def exponentText (e : Int) : List Char :=
  let digits := Nat.toDigits 10 e.natAbs
  (if e < 0 then '-' else '+') :: (if digits.length < 2 then '0' :: digits else digits)

/-- Digits in positional notation from `10 ^ -4` to below `10 ^ 16`, where a whole number keeps one
decimal place, and with an exponent elsewhere. -/
def Digits.render (d : Digits) : List Char :=
  if -4 ≤ d.exponent ∧ d.exponent < 16 then
    if d.exponent < 0 then
      '0' :: '.' :: (List.replicate (-d.exponent - 1).toNat '0' ++ d.digits)
    else
      let whole := d.exponent.toNat + 1
      let padded := d.digits ++ List.replicate (whole - d.digits.length) '0'
      let places := padded.drop whole
      padded.take whole ++ '.' :: (if places.isEmpty then ['0'] else places)
  else
    let mantissa :=
      match d.digits with
      | [] => []
      | [c] => [c]
      | c :: rest => c :: '.' :: rest
    mantissa ++ 'e' :: exponentText d.exponent

/-- The shortest text that reads back as the same double. -/
def shortest (x : Float) : String :=
  match Binary64.ofFloat x with
  | .nan => "nan"
  | .infinite negative => if negative then "-inf" else "inf"
  | .finite negative mantissa exponent =>
    let body :=
      if mantissa = 0 then ['0', '.', '0']
      else
        let (num, den) := binaryQuotient mantissa exponent
        let bits := x.toBits.toNat % Binary64.signBit
        (fewest num den bits (log10Div num den) 16).digits.render
    .ofList (if negative then '-' :: body else body)

/-- The value of a double rounded to `places` decimal places, an exact tie to the even neighbour. -/
def fixed (places : Nat) (x : Float) : String :=
  match Binary64.ofFloat x with
  | .nan => "nan"
  | .infinite negative => if negative then "-inf" else "inf"
  | .finite negative mantissa exponent =>
    let (num, den) := binaryQuotient mantissa exponent
    let digits := Nat.toDigits 10 (roundDiv (num * Nat.pow 10 places) den)
    let padded := List.replicate (places + 1 - digits.length) '0' ++ digits
    let whole := padded.take (padded.length - places)
    let body := if places = 0 then whole else whole ++ '.' :: padded.drop (padded.length - places)
    .ofList (if negative then '-' :: body else body)

end SecureForward.Decimal
