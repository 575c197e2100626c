import BuildBench.Fault
import BuildBench.Statistics.NaturalMerge

/-!
# The arithmetic of samples

Statistics are defined over any numbers that can be added, multiplied, compared and rounded to whole
numbers. The program uses floats; the same definitions read over rational numbers say what the
floats approximate.
-/

namespace BuildBench.Statistics

/-- What the definitions need beside addition, subtraction and multiplication. -/
class Arithmetic (α : Type) where
  ofInt : Int → α
  halve : α → α
  less : α → α → Bool
  /-- The largest whole number that is not greater. -/
  floor : α → Except Fault Int
  /-- The least whole number that is not less. -/
  ceiling : α → Except Fault Int
  /-- The values in ascending order. -/
  ascending : List α → List α
  mean : List α → α

/-! ## Rational numbers -/

def total (xs : List Rat) : Rat := xs.foldr (· + ·) 0

def ratMean (xs : List Rat) : Rat := total xs / (xs.length : Rat)

instance : Arithmetic Rat where
  ofInt i := i
  halve q := q / 2
  less p q := decide (p < q)
  floor q := .ok q.floor
  ceiling q := .ok q.ceil
  ascending xs := xs.mergeSort fun p q => decide (p ≤ q)
  mean := ratMean

/-- The mean square distance from the mean, with one degree of freedom less than there are values.
-/
def variance (xs : List Rat) : Rat :=
  let m := ratMean xs
  total (xs.map fun x => (x - m) * (x - m)) / ((xs.length : Rat) - 1)

/-! ## Floats -/

/-- The whole number next to a float, on the side that `round` says. -/
def wholeNext (round : Rat → Int) (x : Float) : Except Fault Int :=
  match Decimal.toRat? x with
  | some q => .ok (round q)
  | none =>
    if x.isNaN then .error (.invalid "cannot convert float NaN to integer") else .error .tooLarge

/-- The exact values of some floats, if all of them are finite. -/
def exactValues? (xs : List Float) : Option (List Rat) := xs.mapM Decimal.toRat?

/-- The float nearest to the exact mean. Values that are not finite decide the mean alone. -/
def floatMean (xs : List Float) : Float :=
  match exactValues? xs with
  | some qs => (Decimal.ofRat? (ratMean qs)).getD Decimal.notANumber
  | none =>
    let odd := xs.filter fun x => !x.isFinite
    odd.foldl (· + ·) 0.0 / Float.ofNat xs.length

def floatAscending (xs : List Float) : List Float :=
  if xs.any Float.isNaN then NaturalMerge.sort (fun x y => decide (x < y)) xs
  else xs.mergeSort fun x y => decide (x ≤ y)

instance : Arithmetic Float where
  ofInt i := (Decimal.ofInt? i).getD Decimal.infinity
  halve x := x / 2.0
  less x y := decide (x < y)
  floor := wholeNext Rat.floor
  ceiling := wholeNext Rat.ceil
  ascending := floatAscending
  mean := floatMean

/-- The square root of the exact variance, as the nearest float. Values that are not finite have no
deviation. -/
def deviation (xs : List Float) : Except Fault Float :=
  match exactValues? xs with
  | none => .error .noSuchMember
  | some qs =>
    let v := variance qs
    match Decimal.sqrtNearest? v.num.toNat v.den with
    | some x => .ok x
    | none => .error .tooLarge

/-- The square of a float. A square that is too large is a fault, unless the float is infinite. -/
def square (x : Float) : Except Fault Float :=
  let y := Decimal.power x 2.0
  if x.isFinite && !y.isFinite then .error .tooLarge else .ok y

end BuildBench.Statistics
