import BuildBench.Yaml.Form
import BuildBench.Fault
import BuildBench.Text.Case

/-!
# Values of scalars

The tag of a scalar tells how its text is read: as a number, a truth value, a moment, bytes or text.
-/

namespace BuildBench.Yaml

/-- Why a document has no value: it is no document, or one of its scalars names a value that does
not exist. -/
inductive LoadError where
  | malformed
  | fault (fault : Fault)

def invalid {α : Type} (reason : String) : Except LoadError α := .error (.fault (.invalid reason))

def withoutBars (text : String) : List Char := text.toList.filter (· != '_')

/-- At most two hundred characters of a quoted text. -/
def shownNumeral (s : String) : String := String.ofList ((Text.quoted s).toList.take 200)

def noNumeral {α : Type} (base : Nat) (s : String) : Except LoadError α :=
  invalid ("invalid literal for int() with base " ++ toString base ++ ": " ++ shownNumeral s)

def decimalInt (s : String) : Except LoadError Int :=
  match Decimal.readInt s with
  | .ok i => .ok i
  | .error .noNumeral => noNumeral 10 s
  | .error (.tooManyDigits count) => invalid (Decimal.tooManyDigits count)

def intIn (base : Nat) (mark : Char) (s : String) : Except LoadError Int :=
  match Decimal.parseIntIn? base mark s with
  | some i => .ok i
  | none => noNumeral base s

/-- The parts between colons. -/
def sexagesimalParts (cs : List Char) : List String :=
  ((String.ofList cs).splitOn ":")

/-- A sign at the beginning of a number's text. There has to be a first character. -/
def signAndBody (cs : List Char) : Except LoadError (Bool × List Char) :=
  match cs with
  | [] => .error (.fault .badPosition)
  | '-' :: rest => .ok (true, rest)
  | '+' :: rest => .ok (false, rest)
  | _ => .ok (false, cs)

def intValue (text : String) : Except LoadError Int := do
  let (negative, body) ← signAndBody (withoutBars text)
  let n ← match body with
    | [] => .error (.fault .badPosition)
    | ['0'] => .ok 0
    | '0' :: 'b' :: rest => intIn 2 'b' (String.ofList rest)
    | '0' :: 'x' :: rest => intIn 16 'x' (String.ofList rest)
    | '0' :: _ => intIn 8 'o' (String.ofList body)
    | _ =>
      if body.contains ':' then do
        let parts ← (sexagesimalParts body).mapM decimalInt
        pure (parts.foldl (fun n d => 60 * n + d) 0)
      else decimalInt (String.ofList body)
  return if negative then -n else n

def decimalFloat (s : String) : Except LoadError Float :=
  match Decimal.parseFloat? s with
  | some x => .ok x
  | none => invalid ("could not convert string to float: " ++ Text.quoted s)

/-- Base-sixty digits from the last one on, each times its power of sixty, added up from the right.
-/
def sexagesimalSum (power : Nat) (total : Float) : List Float → Except LoadError Float
  | [] => .ok total
  | d :: rest =>
    match Decimal.ofInt? power with
    | some p => sexagesimalSum (60 * power) (total + d * p) rest
    | none => .error (.fault .tooLarge)

/-- Whether a text is one of the spellings, with or without a sign, of the value that is no number.
-/
def isPlainNotANumber (text : String) : Bool :=
  match signAndBody (Text.lower (String.ofList (withoutBars text))).toList with
  | .ok (_, body) => String.ofList body == ".nan"
  | .error _ => false

def floatValue (text : String) : Except LoadError Float := do
  let (negative, body) ← signAndBody (Text.lower (String.ofList (withoutBars text))).toList
  let s := String.ofList body
  let sign : Float := if negative then -1.0 else 1.0
  if s == ".inf" then return sign * Decimal.infinity
  else if s == ".nan" then return Decimal.notANumber
  else if body.contains ':' then
    let parts ← (sexagesimalParts body).mapM decimalFloat
    return sign * (← sexagesimalSum 1 0.0 parts.reverse)
  else return sign * (← decimalFloat s)

def number (digits : List Char) : Nat := Decimal.ofDigits digits

def dayValue (year month day : Nat) : Except LoadError Day :=
  if year = 0 then invalid "year 0 is out of range"
  else if month = 0 || 12 < month then invalid "month must be in 1..12"
  else if day = 0 || daysInMonth year month < day then invalid "day is out of range for month"
  else .ok ⟨year, month, day⟩

/-- The text of a distance of some minutes, counted as days and seconds. -/
def distanceText (minutes : Int) : String :=
  let days := minutes / 1440
  let seconds := 60 * (minutes % 1440)
  let parts := (if days = 0 then [] else ["days=" ++ intText days]) ++
    (if seconds = 0 then [] else ["seconds=" ++ intText seconds])
  "datetime.timedelta(" ++ (if parts.isEmpty then "0" else ", ".intercalate parts) ++ ")"

/-- The distance to universal time, in seconds. It is shorter than a day. -/
def zoneValue (m : MomentText) : Except LoadError (Option Int) :=
  match m.zone with
  | some (sign, hours, minutes) =>
    let size : Int := 60 * number hours + number minutes
    let distance := if sign == '-' then -size else size
    if 1440 ≤ size then
      invalid ("offset must be a timedelta strictly between -timedelta(hours=24) and " ++
        "timedelta(hours=24), not " ++ distanceText distance ++ ".")
    else .ok (some (60 * distance))
  | none => .ok (if m.universal then some 0 else none)

def momentValue (text : String) : Except LoadError Value :=
  match momentText? (dropFinalLineEnd text.toList) with
  | none => .error (.fault .noSuchMember)
  | some m =>
    match m.time with
    | none => (dayValue (number m.year) (number m.month) (number m.day)).map .date
    | some (hour, minute, second) => do
      let offset ← zoneValue m
      let day ← dayValue (number m.year) (number m.month) (number m.day)
      let (h, min, s) := (number hour, number minute, number second)
      if 23 < h then invalid "hour must be in 0..23"
      else if 59 < min then invalid "minute must be in 0..59"
      else if 59 < s then invalid "second must be in 0..59"
      else
        let digits := m.fraction.take 6
        let micro := number (digits ++ Decimal.zeros (6 - digits.length))
        return .moment ⟨day, h, min, s, micro, offset⟩

/-- The value of a character among the sixty-four that write six bits each. -/
def sixBits? (c : Char) : Option Nat :=
  if 'A' ≤ c && c ≤ 'Z' then some (c.toNat - 65)
  else if 'a' ≤ c && c ≤ 'z' then some (c.toNat - 71)
  else if c.isDigit then some (c.toNat + 4)
  else if c == '+' then some 62
  else if c == '/' then some 63
  else none

/-- Bytes written six bits to a character. `place` counts the characters of a group of four, and
`carry` holds the bits that do not make up a byte yet. Padding ends the last group; other characters
are passed over. -/
def sixBitBytes (place carry padding : Nat) : List Char → Except LoadError (List UInt8)
  | [] => if place = 0 then .ok [] else .error .malformed
  | c :: rest =>
    if c == '=' then
      if 2 ≤ place && 4 ≤ place + padding + 1 then .ok []
      else sixBitBytes place carry (if 2 ≤ place then padding + 1 else padding) rest
    else match sixBits? c with
      | none => sixBitBytes place carry padding rest
      | some v =>
        if place = 0 then sixBitBytes 1 v 0 rest
        else if place = 1 then
          (sixBitBytes 2 (v % 16) 0 rest).map (UInt8.ofNat (carry * 4 + v / 16) :: ·)
        else if place = 2 then
          (sixBitBytes 3 (v % 4) 0 rest).map (UInt8.ofNat (carry * 16 + v / 4) :: ·)
        else (sixBitBytes 0 0 0 rest).map (UInt8.ofNat (carry * 64 + v) :: ·)

def bytesValue (text : String) : Except LoadError (List UInt8) :=
  let cs := text.toList
  if cs.all (·.toNat < 128) then sixBitBytes 0 0 0 cs else .error .malformed

def truthValue (text : String) : Except LoadError Bool :=
  let word := Text.lower text
  match truthWords.find? (·.1 == word) with
  | some (_, b) => .ok b
  | none => .error (.fault (.missingKey (.text word)))

/-- The kinds of values that a scalar can stand for. -/
def scalarKinds : List String := ["null", "bool", "int", "float", "binary", "timestamp", "str"]

/-- The value of a scalar with the tag of one of these kinds. -/
def scalarValue (tag text : String) : Except LoadError Value :=
  if tag == coreTag "null" then .ok .null
  else if tag == coreTag "bool" then (truthValue text).map .bool
  else if tag == coreTag "int" then (intValue text).map .int
  else if tag == coreTag "float" then (floatValue text).map .float
  else if tag == coreTag "binary" then (bytesValue text).map .bytes
  else if tag == coreTag "timestamp" then momentValue text
  else if tag == coreTag "str" then .ok (.text text)
  else .error .malformed

end BuildBench.Yaml
