import BuildBench.Decimal.Binary
import BuildBench.Text.Blank
import BuildBench.Text.Digit

/-!
# Numerals

Reading numbers from text. A numeral may be signed, may have blanks around it, and may have single
underscores between digits; digits of every script count. A float numeral has a fraction or an
exponent as well, or is one of the words for infinity and for the value that is no number.
-/

namespace BuildBench.Decimal

/-- The natural number that some ASCII digits write. -/
def ofDigits (digits : List Char) : Nat :=
  digits.foldl (fun n c => 10 * n + (c.toNat - 48)) 0

/-- Takes the underscores out of a text if each stands between two digits. -/
def dropUnderscores : Option Char → List Char → Option (List Char)
  | _, [] => some []
  | before, '_' :: rest =>
    match before, rest with
    | some b, c :: _ =>
      if b.isDigit && c.isDigit then dropUnderscores (some '_') rest else none
    | _, _ => none
  | _, c :: rest => (dropUnderscores (some c) rest).map (c :: ·)

/-- Digits of every script become ASCII digits, and blanks beyond ASCII become spaces. -/
def asciiNumeral (cs : List Char) : List Char :=
  cs.map fun c =>
    if c.toNat < 128 then c
    else
      match Text.digitValue? c with
      | some d => Char.ofNat (48 + d)
      | none => if Text.isBlank c then ' ' else c

/-- The blanks that may stand around a numeral. -/
def isNumeralBlank (c : Char) : Bool := c == ' ' || (9 ≤ c.toNat && c.toNat ≤ 13)

/-- A numeral without the blanks around it. -/
def trimmedNumeral (s : String) : List Char :=
  Text.dropEndWhile isNumeralBlank ((asciiNumeral s.toList).dropWhile isNumeralBlank)

/-- A numeral without the blanks around it and the underscores in it. -/
def bareNumeral? (s : String) : Option (List Char) := dropUnderscores none (trimmedNumeral s)

/-- Splits a sign off. -/
def splitSign : List Char → Bool × List Char
  | '-' :: rest => (true, rest)
  | '+' :: rest => (false, rest)
  | cs => (false, cs)

/-- Reads an optional exponent that must be all that is left. -/
def exponent? : List Char → Option Int
  | [] => some 0
  | e :: rest =>
    if e == 'e' || e == 'E' then
      let (negative, digits) := splitSign rest
      if digits.isEmpty || !digits.all Char.isDigit then none
      else some (if negative then -(ofDigits digits : Int) else ofDigits digits)
    else none

/-- The float nearest to `digits · 10 ^ exponent`. Exponents far outside the range of floats are
settled without computing the power. -/
def ofScientific (negative : Bool) (digits : Nat) (exponent : Int) : Float :=
  let size : Int := (Nat.toDigits 10 digits).length
  if digits = 0 || exponent + size < -400 then nearest negative 0 1
  else if 400 < exponent + size then (if negative then -infinity else infinity)
  else nearest negative (digits * Nat.pow 10 exponent.toNat) (Nat.pow 10 (-exponent).toNat)

/-- Reads a float whose numeral is bare. -/
def parseBare? (cs : List Char) : Option Float :=
  let (negative, body) := splitSign cs
  let word := String.ofList (body.map Char.toLower)
  if word == "inf" || word == "infinity" then some (if negative then -infinity else infinity)
  else if word == "nan" then some notANumber
  else
    let whole := body.takeWhile Char.isDigit
    let rest := body.dropWhile Char.isDigit
    let (fraction, tail) := match rest with
      | '.' :: more => (more.takeWhile Char.isDigit, more.dropWhile Char.isDigit)
      | _ => ([], rest)
    if whole.isEmpty && fraction.isEmpty then none
    else (exponent? tail).map fun e =>
      ofScientific negative (ofDigits (whole ++ fraction)) (e - fraction.length)

/-- The float that a text writes. -/
def parseFloat? (s : String) : Option Float := bareNumeral? s >>= parseBare?

/-- Why a text writes no whole number: it is no numeral, or it has more decimal digits than are
converted. -/
inductive IntError where
  | noNumeral
  | tooManyDigits (count : Nat)
  deriving Repr, DecidableEq

/-- Decimal numerals of whole numbers have at most this many digits. -/
def mostDigits : Nat := 4300

/-- What is said about a decimal numeral with more digits than are converted. -/
def tooManyDigits (count : Nat) : String :=
  "Exceeds the limit (" ++ toString mostDigits ++ " digits) for integer string " ++
    "conversion: value has " ++ toString count ++
    " digits; use sys.set_int_max_str_digits() to increase the limit"

/-- The whole number that some ASCII digits write. -/
def wholeNumber (negative : Bool) (digits : List Char) : Except IntError Int :=
  if digits.isEmpty then .error .noNumeral
  else if mostDigits < digits.length then .error (.tooManyDigits digits.length)
  else .ok (if negative then -(ofDigits digits : Int) else ofDigits digits)

/-- Reads a whole number. The digits at its beginning are counted before anything after them is
looked at. -/
def readInt (s : String) : Except IntError Int :=
  let (negative, body) := splitSign (trimmedNumeral s)
  let numeral := body.takeWhile fun c => c.isDigit || c == '_'
  match dropUnderscores none numeral with
  | none => .error .noNumeral
  | some digits => do
    let n ← wholeNumber negative digits
    if numeral.length < body.length then throw .noNumeral else return n

/-- The whole number that a text writes. -/
def parseInt? (s : String) : Option Int := (readInt s).toOption

/-- The value of a digit in a base up to sixteen. -/
def digitIn? (base : Nat) (c : Char) : Option Nat :=
  let value :=
    if c.isDigit then c.toNat - 48
    else if 'a' ≤ c && c ≤ 'f' then c.toNat - 87
    else if 'A' ≤ c && c ≤ 'F' then c.toNat - 55
    else base
  if value < base then some value else none

/-- The whole number that a text writes in a base that is marked by `mark`; a zero and the mark may
stand in front of the digits. -/
def parseIntIn? (base : Nat) (mark : Char) (s : String) : Option Int :=
  bareNumeral? s >>= fun cs =>
    let (negative, body) := splitSign cs
    let digits := match body with
      | '0' :: m :: rest => if m.toLower == mark then rest else body
      | _ => body
    if digits.isEmpty || !digits.all fun c => (digitIn? base c).isSome then none
    else
      let n : Nat := (digits.filterMap (digitIn? base)).foldl (fun n d => base * n + d) 0
      some (if negative then -(n : Int) else n)

end BuildBench.Decimal
