import BuildBench.Text.Layout
import BuildBench.Decimal.Significant

/-!
# Layouts of whole numbers

A whole number is written in some base, as a character, or as the float nearest to it with a point
or an exponent. The digits in front of the point may be grouped; zeros that fill up the width are
digits like the others then.
-/

namespace BuildBench.Text.Template

/-- A number as it is written, without its sign. -/
structure Numeral where
  /-- What tells the base. -/
  lead : List Char := []
  /-- The digits in front of the point. -/
  digits : List Char
  /-- The point and all that follows it. -/
  rest : List Char := []

/-- Digits in groups with a mark between them, given and made from the last one on. Zeros in front
fill up `least` characters; a mark is not the first of them. Every group uses up a digit or a part
of `least`, so `fuel` groups are made. -/
def groupsOf (size : Nat) (mark : Char) : Nat → Nat → List Char → List Char
  | 0, _, _ => []
  | fuel + 1, least, digits =>
    let length := min size (max (max digits.length least) 1)
    let group := digits.take length
    let group := group ++ Decimal.zeros (length - group.length)
    let left := digits.drop length
    if left.isEmpty && least ≤ length then group
    else group ++ mark :: groupsOf size mark fuel (least - length - 1) left

/-- Digits in groups of some size, with at least so many characters. -/
def grouped (size : Nat) (mark : Char) (least : Nat) (digits : List Char) : List Char :=
  (groupsOf size mark (digits.length + least + 1) least digits.reverse).reverse

/-- The base of the types of numbers, and what the alternate form puts in front. -/
def numberBase? (type : Char) : Option (Nat × String) :=
  [('d', (10, "")), ('n', (10, "")), ('b', (2, "0b")), ('o', (8, "0o")), ('x', (16, "0x")),
   ('X', (16, "0X"))].lookup type

/-- How many digits make a group. -/
def Layout.groupSize (layout : Layout) : Nat := if "boxX".toList.contains layout.type then 4 else 3

/-- The sign in front of a number. -/
def Layout.signOf (layout : Layout) (i : Int) : List Char :=
  if i < 0 then ['-']
  else
    match layout.sign with
    | some '-' | none => []
    | some c => [c]

/-- A numeral behind its sign, grouped and padded. -/
def Layout.applyNumeral (layout : Layout) (sign : List Char) (numeral : Numeral) :
    Except Fault String :=
  let sign := sign ++ numeral.lead
  let width := layout.width.getD 0
  let least :=
    if layout.fill == '0' && layout.side == .afterSign then
      width - (sign.length + numeral.rest.length)
    else 0
  if mostCharacters < width then .error .noRoom
  else
    let digits := match layout.grouping with
      | some mark => grouped layout.groupSize mark least numeral.digits
      | none => numeral.digits
    layout.pad sign (digits ++ numeral.rest)

/-- Lays a number out as the character of that number. -/
def Layout.applyCharacter (layout : Layout) (i : Int) : Except Fault String :=
  if layout.sign.isSome then fail "Sign not allowed with integer format specifier 'c'"
  else if layout.alternate then
    fail "Alternate form (#) not allowed with integer format specifier 'c'"
  else if i < 0 || 0x110000 ≤ i then .error .tooLarge
  else layout.pad [] [charOfEscape i.toNat]

/-- Lays a number out in some base, with a mark of the base in the alternate form. -/
def Layout.applyBase (layout : Layout) (base : Nat) (mark : String) (i : Int) :
    Except Fault String :=
  let digits := Nat.toDigits base i.natAbs
  layout.applyNumeral (layout.signOf i)
    { lead := if layout.alternate then mark.toList else []
      digits := if layout.type == 'X' then digits.map Char.toUpper else digits }

/-! ## Points and exponents -/

/-- Types that write a number as a float. -/
def isFloatType (type : Char) : Bool := "eEfFgG%".toList.contains type

/-- The digits behind the point, with the point. The alternate form has a point in any case. -/
def Layout.fraction (layout : Layout) (digits : List Char) : List Char :=
  if digits.isEmpty && !layout.alternate then [] else '.' :: digits

/-- Digits with zeros behind them, so that they are `count`. -/
def filled (count : Nat) (digits : List Char) : List Char :=
  digits ++ Decimal.zeros (count - digits.length)

/-- A number with an exponent, and with `places` digits behind the point. -/
def Layout.withExponent (layout : Layout) (places : Nat) (s : Decimal.Scientific) : Numeral where
  digits := s.digits.take 1
  rest := layout.fraction (filled places (s.digits.drop 1)) ++
    Decimal.exponentText (if layout.type.isUpper then 'E' else 'e') s.exponent

/-- A number with `count` significant digits, in the shorter of both forms. Zeros at the end are
left out but for the alternate form. -/
def Layout.general (layout : Layout) (count n : Nat) : Numeral :=
  let s := Decimal.significant count n
  let least (before : Nat) : Nat := if layout.alternate then count - before else 0
  if s.exponent < count then
    let (before, after) := s.parts
    { digits := before, rest := layout.fraction (filled (least before.length) after) }
  else layout.withExponent (least 1) s

/-- A number of a type that writes floats, which is whole and not negative. -/
def Layout.floatNumeral (layout : Layout) (precision n : Nat) : Numeral :=
  if layout.type == 'e' || layout.type == 'E' then
    layout.withExponent precision (Decimal.significant (precision + 1) n)
  else if layout.type == 'g' || layout.type == 'G' then layout.general (max precision 1) n
  else
    { digits := Nat.toDigits 10 n
      rest := layout.fraction (Decimal.zeros precision) ++ if layout.type == '%' then ['%'] else [] }

/-- How many digits a float has behind its point when the layout does not say so. -/
def usualPrecision : Nat := 6

/-- Precisions are not larger than this. -/
def mostPrecise : Nat := Nat.pow 2 31 - 1

/-- Lays a number out as the float nearest to it. -/
def Layout.applyFloat (layout : Layout) (i : Int) : Except Fault String :=
  let precision := layout.precision.getD usualPrecision
  match (Decimal.ofInt? i.natAbs).bind fun x =>
      Decimal.toRat? (if layout.type == '%' then x * 100.0 else x) with
  | none => .error .tooLarge
  | some value =>
    if mostPrecise < precision then fail "precision too big"
    else if mostCharacters < precision then .error .noRoom
    else layout.applyNumeral (layout.signOf i) (layout.floatNumeral precision value.num.natAbs)

/-- Lays a whole number out. -/
def Layout.applyNumber (layout : Layout) (typeName : String) (i : Int) : Except Fault String :=
  if isFloatType layout.type then layout.applyFloat i
  else if (numberBase? layout.type).isNone && layout.type != 'c' then
    fail ("Unknown format code '" ++ shownChar 128 layout.type ++ "' for object of type '" ++
      typeName ++ "'")
  else if layout.precision.isSome then fail "Precision not allowed in integer format specifier"
  else if layout.noNegativeZero then
    fail "Negative zero coercion (z) not allowed in integer format specifier"
  else
    match numberBase? layout.type with
    | none => layout.applyCharacter i
    | some (base, mark) => layout.applyBase base mark i

/-- A whole number of some type laid out as `spec` says. -/
def layOutNumber (spec : List Char) (typeName : String) (i : Int) : Except Fault String :=
  Layout.parse (forNumber typeName) spec >>= (·.applyNumber typeName i)

end BuildBench.Text.Template
