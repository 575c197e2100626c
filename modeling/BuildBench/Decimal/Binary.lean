/-!
# Binary numbers, exactly

A `Float` is read as sign, mantissa and power of two, so that every question about its decimal
text becomes one about natural numbers. In the other direction `nearest?` gives the float closest
to a quotient of natural numbers, a tie going to the even mantissa, and nothing when the quotient
lies beyond the largest float.
-/

namespace BuildBench.Decimal

/-- The quotient rounded to the nearest natural number; a tie goes to the even one. -/
def roundDiv (num den : Nat) : Nat :=
  let whole := num / den
  let rest := num % den
  if den < 2 * rest then whole + 1
  else if 2 * rest = den then whole + whole % 2
  else whole

/-- What the bits of a float say. The value of `finite` is `mantissa · 2 ^ exponent`. -/
inductive Binary where
  | finite (negative : Bool) (mantissa : Nat) (exponent : Int)
  | infinite (negative : Bool)
  | notANumber
  deriving Repr, DecidableEq

/-- The reading of 64 bits: sign, eleven bits of exponent, fifty-two of fraction. -/
def Binary.ofBits (bits : Nat) : Binary :=
  let negative := decide (Nat.pow 2 63 ≤ bits)
  let field : Nat := bits / Nat.pow 2 52 % Nat.pow 2 11
  let fraction : Nat := bits % Nat.pow 2 52
  if field = 2047 then
    if fraction = 0 then .infinite negative else .notANumber
  else if field = 0 then .finite negative fraction (-1074)
  else .finite negative (Nat.pow 2 52 + fraction) ((field : Int) - 1075)

def Binary.ofFloat (x : Float) : Binary := Binary.ofBits x.toBits.toNat

/-- `mantissa · 2 ^ exponent` as a quotient of natural numbers. -/
def scaled (mantissa : Nat) (exponent : Int) : Nat × Nat :=
  (mantissa * Nat.pow 2 exponent.toNat, Nat.pow 2 (-exponent).toNat)

/-- The bits of the float nearest to `num / den`, without its sign. The exponent is chosen so that
the rounded mantissa has fifty-three bits, or the least exponent there is; adding the mantissa to
the exponent field carries by itself when rounding reaches the next power of two. -/
def nearestBits (num den : Nat) : Nat :=
  if num = 0 then 0 else
    let guess : Int := (num.log2 : Int) - (den.log2 : Int) - 53
    let quotient (exponent : Int) : Nat × Nat :=
      (num * Nat.pow 2 (-exponent).toNat, den * Nat.pow 2 exponent.toNat)
    let fits := (quotient guess).1 / (quotient guess).2 < Nat.pow 2 53
    let exponent := max (if fits then guess else guess + 1) (-1074)
    let (n, d) := quotient exponent
    (exponent + 1074).toNat * Nat.pow 2 52 + roundDiv n d

/-- The bits of positive infinity: everything from here on is no finite float. -/
def infinityBits : Nat := 2047 * Nat.pow 2 52

/-- The float nearest to `num / den`, or nothing when that is too large for a float. -/
def nearest? (negative : Bool) (num den : Nat) : Option Float :=
  let bits := nearestBits num den
  if infinityBits ≤ bits then none
  else some (Float.ofBits (UInt64.ofNat (if negative then Nat.pow 2 63 + bits else bits)))

def infinity : Float := Float.ofBits (UInt64.ofNat infinityBits)

/-- The float nearest to `num / den`, infinite when that is too large. -/
def nearest (negative : Bool) (num den : Nat) : Float :=
  (nearest? negative num den).getD (if negative then -infinity else infinity)

/-- The one value that differs from itself. -/
def notANumber : Float := Float.ofBits (UInt64.ofNat (2047 * Nat.pow 2 52 + Nat.pow 2 51))

/-- The float nearest to an integer, or nothing when it is too large. -/
def ofInt? (i : Int) : Option Float := nearest? (i < 0) i.natAbs 1

/-- The exact value of a finite float. -/
def toRat? (x : Float) : Option Rat :=
  match Binary.ofFloat x with
  | .finite negative mantissa exponent =>
    let (n, d) := scaled mantissa exponent
    some (mkRat (if negative then -(n : Int) else n) d)
  | _ => none

/-- The float nearest to a rational number, or nothing when it is too large. -/
def ofRat? (q : Rat) : Option Float := nearest? (q.num < 0) q.num.natAbs q.den

/-- The integer square root: the largest `r` with `r * r ≤ n`. Each step of Newton's iteration
from above decreases strictly until the root is reached, so one step per bit and a few more
suffice. -/
def sqrtFloor (n : Nat) : Nat :=
  let rec improve : Nat → Nat → Nat
    | 0, r => r
    | steps + 1, r =>
      let better := (r + n / r) / 2
      if better < r then improve steps better else r
  if n = 0 then 0 else improve (n.log2 + 8) (Nat.pow 2 (n.log2 / 2 + 1))

/-- The float nearest to the square root of `num / den`. The root is taken of a multiple so large
that it has more than two spare bits beyond a float's mantissa; a last bit that is set whenever the
root is inexact keeps the final rounding from seeing a false tie. -/
def sqrtNearest? (num den : Nat) : Option Float :=
  if num = 0 then some 0.0 else
    let half : Int := ((num.log2 : Int) - (den.log2 : Int) - 109) / 2
    let n := num * Nat.pow 2 (-(2 * half)).toNat
    let d := den * Nat.pow 2 (2 * half).toNat
    let root := sqrtFloor (n / d)
    let sticky := if root * root * d = n then root else root / 2 * 2 + 1
    nearest? false (sticky * Nat.pow 2 half.toNat) (Nat.pow 2 (-half).toNat)

/-- A power of a float. The last bit is that of the mathematical library of the machine, which is
not always that of the nearest float; so a square taken here can differ from a product. -/
@[noinline] def power (x exponent : Float) : Float := x.pow exponent

end BuildBench.Decimal
