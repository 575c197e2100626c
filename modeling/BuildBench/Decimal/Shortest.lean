import BuildBench.Decimal.Binary

/-!
# Decimal text of a float

`shortest` writes the fewest digits that read back as the same float, the nearest such decimal when
several have that many. `fixed` and `roundPlaces` keep a fixed number of places of the exact binary
value, a half going to the even digit.
-/

namespace BuildBench.Decimal

/-- A decimal `d.ddd… · 10 ^ exponent`, its digits without trailing zeros. -/
structure Scientific where
  digits : List Char
  exponent : Int
  deriving Repr, DecidableEq

def Scientific.ofNat (n : Nat) (lastPlace : Int) : Scientific :=
  let digits := Nat.toDigits 10 n
  let kept := (digits.reverse.dropWhile (· == '0')).reverse
  ⟨if kept.isEmpty then ['0'] else kept, lastPlace + digits.length - 1⟩

/-- The decimal exponent of `num / den`: the power of ten in `10 ^ e ≤ num / den < 10 ^ (e + 1)`. -/
def decimalExponent (num den : Nat) : Int :=
  if den ≤ num then (Nat.toDigits 10 (num / den)).length - 1
  else
    -- The first guess is at most one too large.
    let guess : Nat := (Nat.toDigits 10 (den / num)).length
    if den ≤ num * Nat.pow 10 (guess - 1) then -(guess - 1 : Int) else -(guess : Int)

/-- The fewest digits, at most seventeen, with which a decimal reads back as `mantissa · 2 ^
exponent`. A decimal reads back when it lies between the midpoints to the two neighbouring floats;
the midpoints themselves belong to an even mantissa. The gap below a power of two is half as wide
as the one above it. -/
def shortestDigits (mantissa : Nat) (exponent : Int) : Scientific :=
  let (num, den) := scaled (4 * mantissa) (exponent - 2)
  let (unit, _) := scaled 1 (exponent - 2)
  let narrow := mantissa = Nat.pow 2 52 && (-1074 : Int) < exponent
  let low := num - (if narrow then unit else 2 * unit)
  let high := num + 2 * unit
  let closed := mantissa % 2 = 0
  let magnitude := decimalExponent num den
  -- All of `num`, `low` and `high` are counted in units of `1 / den`.
  let readsBack (n d : Nat) : Bool :=
    if closed then low * d ≤ n * den && n * den ≤ high * d
    else low * d < n * den && n * den < high * d
  let attempt (count : Nat) : Option Scientific :=
    let place := magnitude - count + 1
    let up := Nat.pow 10 place.toNat
    let down := Nat.pow 10 (-place).toNat
    let below := num * down / (den * up)
    let above := below + 1
    match readsBack (below * up) down, readsBack (above * up) down with
    | false, false => none
    | true, false => some (.ofNat below place)
    | false, true => some (.ofNat above place)
    | true, true => some (.ofNat (roundDiv (num * down) (den * up)) place)
  ((List.range' 1 17).findSome? attempt).getD (.ofNat (roundDiv num den) 0)

/-- How a decimal becomes text: the exponents written positionally, and the least number of digits
of a written exponent. -/
structure Layout where
  leastPositional : Int
  firstScientific : Int
  exponentWidth : Nat

/-- Positional from `0.0001` up to, but not including, `10 ^ 16`; otherwise an exponent of at least
two digits with its sign. -/
def plainLayout : Layout := ⟨-4, 16, 2⟩

def zeros (count : Nat) : List Char := List.replicate count '0'

/-- Digits placed around the decimal point, with at least one digit on either side. -/
def positional (s : Scientific) : List Char :=
  if s.exponent < 0 then
    '0' :: '.' :: zeros (-s.exponent - 1).toNat ++ s.digits
  else
    let before := s.exponent.toNat + 1
    let padded := s.digits ++ zeros (before - s.digits.length)
    let after := padded.drop before
    padded.take before ++ '.' :: (if after.isEmpty then ['0'] else after)

def withExponent (width : Nat) (s : Scientific) : List Char :=
  let magnitude := Nat.toDigits 10 s.exponent.natAbs
  let fraction := match s.digits with
    | [] => ['0']
    | [d] => [d]
    | d :: rest => d :: '.' :: rest
  fraction ++ 'e' :: (if s.exponent < 0 then '-' else '+') ::
    zeros (width - magnitude.length) ++ magnitude

def signed (negative : Bool) (cs : List Char) : String :=
  String.ofList (if negative then '-' :: cs else cs)

/-- The shortest text that reads back as `x`. -/
def shortest (x : Float) : String :=
  match Binary.ofFloat x with
  | .notANumber => "nan"
  | .infinite negative => signed negative "inf".toList
  | .finite negative mantissa exponent =>
    if mantissa = 0 then signed negative "0.0".toList
    else
      let s := shortestDigits mantissa exponent
      if plainLayout.leastPositional ≤ s.exponent && s.exponent < plainLayout.firstScientific then
        signed negative (positional s)
      else signed negative (withExponent plainLayout.exponentWidth s)

/-- The magnitude of a finite float in units of the last of `places` decimal places, rounded. -/
def unitsOf (places mantissa : Nat) (exponent : Int) : Nat :=
  let (num, den) := scaled mantissa exponent
  roundDiv (num * Nat.pow 10 places) den

/-- `x` with exactly `places` digits after the point. A negative number keeps its sign also when it
rounds to zero. -/
def fixed (places : Nat) (x : Float) : String :=
  match Binary.ofFloat x with
  | .notANumber => "nan"
  | .infinite negative => signed negative "inf".toList
  | .finite negative mantissa exponent =>
    let digits := Nat.toDigits 10 (unitsOf places mantissa exponent)
    let padded := zeros (places + 1 - digits.length) ++ digits
    let before := padded.length - places
    signed negative
      (padded.take before ++ (if places = 0 then [] else '.' :: padded.drop before))

/-- The float nearest to `x` rounded to `places` decimal places. Infinities and the value that is no
number stay as they are. -/
def roundPlaces (places : Nat) (x : Float) : Float :=
  match Binary.ofFloat x with
  | .finite negative mantissa exponent =>
    -- Whole numbers have nothing to round, and the largest would else be rebuilt digit by digit.
    if 0 ≤ exponent then x
    else nearest negative (unitsOf places mantissa exponent) (Nat.pow 10 places)
  | _ => x

end BuildBench.Decimal
