import BuildBench.Statistics.Arithmetic

/-!
# Percentiles and outliers

A percentile lies between two neighbouring values of an ascending list, where its position says.
Values far outside the middle half of a sample are outliers.
-/

namespace BuildBench.Statistics

variable {α : Type} [Add α] [Sub α] [Mul α] [Arithmetic α]

open Arithmetic

/-- The value at a position; negative positions count from the end. -/
def valueAt (xs : List α) (i : Int) : Except Fault α :=
  let position := if i < 0 then i + xs.length else i
  if position < 0 then .error .badPosition
  else match xs[position.toNat]? with
    | some x => .ok x
    | none => .error .badPosition

/-- The value at the fraction `p` of the way from the first to the last of an ascending list,
between two values in proportion to its distance from them. `empty` is the answer for no values. -/
def percentile (empty : α) (xs : List α) (p : α) : Except Fault α :=
  match xs with
  | [] => .ok empty
  | [x] => .ok x
  | _ => do
    let k := ofInt ((xs.length : Int) - 1) * p
    let low ← floor k
    let high ← ceiling k
    if low = high then valueAt xs low
    else
      let d := k - ofInt low
      let a ← valueAt xs low
      let b ← valueAt xs high
      return a * (ofInt 1 - d) + b * d

/-- The quarters of the way. -/
def quarter : α := halve (halve (ofInt 1))

def threeQuarters : α := ofInt 1 - quarter

/-- How far outside the middle half a value may lie, in widths of that half. -/
def defaultFactor : α := ofInt 1 + halve (ofInt 1)

/-- Whether each value lies outside the middle half by more than `factor` times its width. A sample
of fewer than four values has no outliers. -/
def outliers (empty factor : α) (xs : List α) : Except Fault (List Bool) := do
  if xs.length < 4 then return xs.map fun _ => false
  else
    let sorted := ascending xs
    let q1 ← percentile empty sorted quarter
    let q3 ← percentile empty sorted threeQuarters
    let width := q3 - q1
    let lower := q1 - factor * width
    let upper := q3 + factor * width
    return xs.map fun x => less x lower || less upper x

/-- Whether a sample has outliers at all. -/
def hasOutlier (empty : α) (xs : List α) : Except Fault Bool := do
  let flags ← outliers empty defaultFactor xs
  return flags.contains true

end BuildBench.Statistics
