import BuildBench.Fault

/-!
# Comparing numbers

A number can be compared with a float exactly, whatever its type. Other values have no order.
-/

namespace BuildBench.Value

def isNull : Value → Bool
  | .null => true
  | _ => false

/-- Whether a whole number is less than a float. -/
def intLess (i : Int) (x : Float) : Bool :=
  match Decimal.toRat? x with
  | some q => decide ((i : Rat) < q)
  | none => decide (0.0 < x)

/-- Whether a number is less than a float. Values that are no numbers have no answer. -/
def lessThan? (v : Value) (x : Float) : Option Bool :=
  match v with
  | .bool b => some (intLess (if b then 1 else 0) x)
  | .int i => some (intLess i x)
  | .float y => some (decide (y < x))
  | _ => none

/-- The float nearest to a number; zero for all else. -/
def toFloat : Value → Float
  | .bool b => if b then 1.0 else 0.0
  | .int i => (Decimal.ofInt? i).getD (if i < 0 then -Decimal.infinity else Decimal.infinity)
  | .float x => x
  | _ => 0.0

/-- A number with some decimal places. Whole numbers stay as they are, truth values become them, and
what is no number cannot be rounded. -/
def roundPlaces (places : Nat) : Value → Except Fault Value
  | .bool b => .ok (.int (if b then 1 else 0))
  | .int i => .ok (.int i)
  | .float x => .ok (.float (Decimal.roundPlaces places x))
  | _ => .error .wrongType

end BuildBench.Value
