import BuildBench.Fault
import BuildBench.Decimal.Numeral

/-!
# Values that can be shown

A whole number with very many digits is not written out, neither by itself nor inside a collection:
a value that holds one has no text.
-/

namespace BuildBench

/-- What is said about a number that is not written out. -/
def tooLongNumber : Fault :=
  .invalid ("Exceeds the limit (" ++ toString Decimal.mostDigits ++ " digits) for integer " ++
    "string conversion; use sys.set_int_max_str_digits() to increase the limit")

/-- Whether a whole number is written out. -/
def isShortNumber (i : Int) : Bool := decide (i.natAbs < Nat.pow 10 Decimal.mostDigits)

mutual

/-- Whether all whole numbers in a value are written out. -/
def Value.isShowable : Value → Bool
  | .int i => isShortNumber i
  | .list items => areShowable items
  | .pair first second => first.isShowable && second.isShowable
  | .map entries => haveShowable entries
  | .set items => areShowable items
  | .knot _ content => content.isShowable
  | _ => true

def areShowable : List Value → Bool
  | [] => true
  | v :: rest => v.isShowable && areShowable rest

def haveShowable : List (Value × Value) → Bool
  | [] => true
  | (k, v) :: rest => k.isShowable && v.isShowable && haveShowable rest

end

/-- A value, if it can be shown. -/
def Value.shown (v : Value) : Except Fault Value :=
  if v.isShowable then .ok v else .error tooLongNumber

/-- The text of a value in a message, if it can be shown. -/
def Value.textOf (v : Value) : Except Fault String := v.shown.map Value.display

end BuildBench
