import BuildBench.Fault
import BuildBench.Text.Digit
import BuildBench.Text.Surrogate

/-!
# Layouts

A layout says how a text or a whole number is padded, cut and written. What it asks for has to be
something that its object can have; everything else is refused by name. Here layouts are read and
texts are laid out.
-/

namespace BuildBench.Text.Template

def fail {α : Type} (reason : String) : Except Fault α := .error (.invalid reason)

/-- A character in an error message: as it is if it is a visible ASCII character below `last`, else
its number. -/
def shownChar (last : Nat) (c : Char) : String :=
  if 32 < c.toNat && c.toNat < last then String.singleton c
  else "\\x" ++ String.ofList (Nat.toDigits 16 c.toNat)

/-- The number at the beginning of some characters, how many digits it has, and what follows.
Numbers beyond 63 bits are refused. -/
def leadingNumber (cs : List Char) : Except Fault (Nat × Nat × List Char) :=
  let values := (cs.takeWhile fun c => (digitValue? c).isSome).filterMap digitValue?
  let n := values.foldl (fun n d => 10 * n + d) 0
  if Nat.pow 2 63 ≤ n then fail "Too many decimal digits in format string"
  else .ok (n, values.length, cs.drop values.length)

inductive Side where
  | left
  | right
  | middle
  | afterSign
  deriving DecidableEq

def Side.ofChar? (c : Char) : Option Side :=
  if c == '<' then some .left
  else if c == '>' then some .right
  else if c == '^' then some .middle
  else if c == '=' then some .afterSign
  else none

/-- The parts of a layout. Only fill, side, width and precision apply to text; the others are known
for numbers, and so that they can be refused by name. -/
structure Layout where
  fill : Char := ' '
  side : Side := .left
  sign : Option Char := none
  noNegativeZero : Bool := false
  alternate : Bool := false
  width : Option Nat := none
  grouping : Option Char := none
  precision : Option Nat := none
  type : Char := 's'

/-- Takes one character off if it satisfies `p`. -/
def takeIf (p : Char → Bool) : List Char → Option Char × List Char
  | [] => (none, [])
  | c :: rest => if p c then (some c, rest) else (none, c :: rest)

/-- Fill and side: a side may have a fill character before it. -/
def alignment (cs : List Char) : Option Char × Option Side × List Char :=
  match cs with
  | [] => (none, none, [])
  | [c] =>
    match Side.ofChar? c with
    | some side => (none, some side, [])
    | none => (none, none, cs)
  | c :: d :: rest =>
    match Side.ofChar? d with
    | some side => (some c, some side, rest)
    | none =>
      match Side.ofChar? c with
      | some side => (none, some side, d :: rest)
      | none => (none, none, cs)

/-- Groups of digits may be parted by commas or by underscores, not by both. -/
def groupingOf (cs : List Char) : Except Fault (Option Char × List Char) := do
  let (comma, cs) := takeIf (· == ',') cs
  let (underscore, cs) := takeIf (· == '_') cs
  if underscore.isSome && (comma.isSome || (takeIf (· == ',') cs).1.isSome) then
    fail "Cannot specify both ',' and '_'."
  else return (underscore <|> comma, cs)

def precisionOf (cs : List Char) : Except Fault (Option Nat × List Char) :=
  match cs with
  | '.' :: rest => do
    let (n, digits, rest) ← leadingNumber rest
    if digits = 0 then fail "Format specifier missing precision" else return (some n, rest)
  | _ => .ok (none, cs)

/-- What a layout is read for: the name of a type, and what holds where the layout says nothing. -/
structure Purpose where
  typeName : String
  type : Char
  side : Side

/-- Texts are written as they are, to the left. -/
def forText : Purpose := ⟨"str", 's', .left⟩

/-- Whole numbers are written in base ten, to the right. -/
def forNumber (typeName : String) : Purpose := ⟨typeName, 'd', .right⟩

/-- Reads a layout. -/
def Layout.parse (purpose : Purpose) (spec : List Char) : Except Fault Layout := do
  let (fill, side, cs) := alignment spec
  let (sign, cs) := takeIf (fun c => c == ' ' || c == '+' || c == '-') cs
  let (noNegativeZero, cs) := takeIf (· == 'z') cs
  let (alternate, cs) := takeIf (· == '#') cs
  -- A zero before the width is a fill character, unless one was given.
  let (zero, cs) := takeIf (fun c => fill.isNone && c == '0') cs
  let (width, digits, cs) ← leadingNumber cs
  let (grouping, cs) ← groupingOf cs
  let (precision, cs) ← precisionOf cs
  match cs with
  | _ :: _ :: _ =>
    fail ("Invalid format specifier '" ++ String.ofList spec ++ "' for object of type '" ++
      purpose.typeName ++ "'")
  | _ =>
    let type := cs.head?.getD purpose.type
    let groupable := "defgEG%F".toList.contains type ||
      ("boxX".toList.contains type && grouping == some '_')
    match grouping with
    | some mark =>
      if !groupable then
        fail ("Cannot specify '" ++ String.singleton mark ++ "' with '" ++ shownChar 128 type ++
          "'.")
    | none => pure ()
    return {
      fill := fill.getD (if zero.isSome then '0' else ' ')
      side := side.getD
        (if zero.isSome && purpose.side == .right then .afterSign else purpose.side)
      sign := sign
      noNegativeZero := noNegativeZero.isSome
      alternate := alternate.isSome
      width := if digits = 0 then none else some width
      grouping := grouping
      precision := precision
      type := type }

/-- Nothing is laid out with more characters than this. -/
def mostCharacters : Nat := Nat.pow 2 30

/-- Pads what follows a sign to the width of a layout. -/
def Layout.pad (layout : Layout) (sign body : List Char) : Except Fault String :=
  let width := layout.width.getD 0
  if mostCharacters < width then .error .noRoom
  else
    let missing := width - (sign.length + body.length)
    let filling (n : Nat) := List.replicate n layout.fill
    let before := match layout.side with
      | .right => missing
      | .middle => missing / 2
      | _ => 0
    .ok (String.ofList
      (match layout.side with
        | .afterSign => sign ++ filling missing ++ body
        | _ => filling before ++ sign ++ body ++ filling (missing - before)))

/-- Lays a text out. Everything in a layout that only numbers have is refused. -/
def Layout.apply (layout : Layout) (s : String) : Except Fault String :=
  if layout.type != 's' then
    fail ("Unknown format code '" ++ shownChar 128 layout.type ++ "' for object of type 'str'")
  else if layout.sign == some ' ' then fail "Space not allowed in string format specifier"
  else if layout.sign.isSome then fail "Sign not allowed in string format specifier"
  else if layout.noNegativeZero then
    fail "Negative zero coercion (z) not allowed in string format specifier"
  else if layout.alternate then
    fail "Alternate form (#) not allowed in string format specifier"
  else if layout.side == .afterSign then
    fail "'=' alignment not allowed in string format specifier"
  else
    let cs := match layout.precision with
      | some n => s.toList.take n
      | none => s.toList
    layout.pad [] cs

/-- A text laid out as `spec` says; an empty layout changes nothing. -/
def layOut (spec : List Char) (s : String) : Except Fault String :=
  if spec.isEmpty then .ok s else Layout.parse forText spec >>= (·.apply s)

end BuildBench.Text.Template
