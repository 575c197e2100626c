import BuildBench.Decimal.Shortest

/-!
# Decimals with a fixed number of digits

A natural number cut to its first digits is the nearest decimal that has no more of them, a half
going to the even digit.
-/

namespace BuildBench.Decimal

/-- A natural number with at most `count` significant digits. -/
def significant (count n : Nat) : Scientific :=
  let length := (Nat.toDigits 10 n).length
  if length ≤ count then .ofNat n 0
  else .ofNat (roundDiv n (Nat.pow 10 (length - count))) ((length - count : Nat) : Int)

/-- The digits of a decimal in front of the point and behind it. The decimal is at least one, or
zero. -/
def Scientific.parts (s : Scientific) : List Char × List Char :=
  let before := s.exponent.toNat + 1
  ((s.digits ++ zeros (before - s.digits.length)).take before, s.digits.drop before)

/-- An exponent behind its mark: a sign and at least two digits. -/
def exponentText (mark : Char) (exponent : Int) : List Char :=
  let digits := Nat.toDigits 10 exponent.natAbs
  mark :: (if exponent < 0 then '-' else '+') ::
    zeros (plainLayout.exponentWidth - digits.length) ++ digits

end BuildBench.Decimal
