import BuildBench.Statistics.Percentile

/-!
# Description of a sample

The mean, the median, the least and the greatest value, the quartiles, and the deviation.
-/

namespace BuildBench.Statistics

open Arithmetic

/-- Where the values of a sample lie. -/
structure Summary (α : Type) where
  mean : α
  median : α
  least : α
  greatest : α
  q1 : α
  q3 : α

/-- The middle value of an ascending list, or half the sum of the two in the middle. -/
def median {α : Type} [Add α] [Arithmetic α] (empty : α) (sorted : List α) : α :=
  let n := sorted.length
  if n % 2 = 1 then sorted.getD (n / 2) empty
  else halve (sorted.getD (n / 2 - 1) empty + sorted.getD (n / 2) empty)

/-- Where the values of a sample lie; everything is `empty` when there are none. -/
def summarise {α : Type} [Add α] [Sub α] [Mul α] [Arithmetic α] (empty : α) (xs : List α) :
    Except Fault (Summary α) := do
  let sorted := ascending xs
  match sorted with
  | [] => return ⟨empty, empty, empty, empty, empty, empty⟩
  | first :: _ =>
    let q1 ← percentile empty sorted quarter
    let q3 ← percentile empty sorted threeQuarters
    return ⟨mean sorted, median empty (ascending sorted), first, sorted.getLastD empty, q1, q3⟩

/-- A sample of floats in numbers. -/
structure Description where
  count : Nat
  summary : Summary Float
  deviation : Float

/-- Describes a sample. A single value has no deviation; an empty sample has no numbers at all. -/
def describe (xs : List Float) : Except Fault Description := do
  if xs.isEmpty then
    let s ← summarise Decimal.notANumber xs
    return ⟨0, s, Decimal.notANumber⟩
  else
    let dev ← if 2 ≤ xs.length then deviation (Arithmetic.ascending xs) else pure 0.0
    let s ← summarise Decimal.notANumber xs
    return ⟨xs.length, s, dev⟩

def Description.variance (d : Description) : Except Fault Float := square d.deviation

/-- A number in a report has six decimal places. -/
def reported (x : Float) : Value := .float (Decimal.roundPlaces 6 x)

def Description.members (d : Description) : List (String × Value) :=
  [("n", .int d.count), ("mean", reported d.summary.mean), ("median", reported d.summary.median),
   ("stdev", reported d.deviation), ("min", reported d.summary.least),
   ("max", reported d.summary.greatest), ("q1", reported d.summary.q1),
   ("q3", reported d.summary.q3)]

end BuildBench.Statistics
