import BuildBench.Decimal.Shortest
import BuildBench.Text.Quoted
import BuildBench.Text.Lines

/-!
# Dynamic values

The values that a profile or a measurement document can hold. A setting keeps the value it was
given, whatever its type; each use says which types it accepts. `display` is the text of a value in
messages, `quoted` its text inside a collection.

Both are written for collections that are nested however deeply. Documents bound how deeply their
own brackets and indents are nested, but a chain of references can lead deeper than that, and no
limit on the depth of calls is part of the texts here.
-/

namespace BuildBench

/-- A calendar day. -/
structure Day where
  year : Nat
  month : Nat
  day : Nat
  deriving Repr, DecidableEq

/-- A time of day on a calendar day, with the distance to universal time in seconds if it is known.
-/
structure Moment where
  day : Day
  hour : Nat
  minute : Nat
  second : Nat
  microsecond : Nat
  offset : Option Int
  deriving Repr, DecidableEq

/-- Whether a year has 366 days. -/
def isLeapYear (year : Nat) : Bool := year % 4 = 0 && (year % 100 != 0 || year % 400 = 0)

def daysInMonth (year month : Nat) : Nat :=
  if month = 2 then (if isLeapYear year then 29 else 28)
  else if [4, 6, 9, 11].contains month then 30
  else 31

/-- The days from the first day of year one to a day. -/
def Day.number (d : Day) : Nat :=
  let years := d.year - 1
  let months := (List.range' 1 (d.month - 1)).map (daysInMonth d.year)
  365 * years + years / 4 - years / 100 + years / 400 + months.foldl (· + ·) 0 + d.day - 1

/-- The seconds of the clock since the first day of year one. -/
def Moment.clock (m : Moment) : Nat :=
  ((m.day.number * 24 + m.hour) * 60 + m.minute) * 60 + m.second

/-- Whether two moments are the same: as instants if both know their distance to universal time, by
the clock if neither does. -/
def Moment.isSame (a b : Moment) : Bool :=
  a.microsecond == b.microsecond &&
    match a.offset, b.offset with
    | some p, some q => a.clock - p == b.clock - q
    | none, none => a.clock == b.clock
    | _, _ => false

inductive Value where
  | null
  | bool (b : Bool)
  | int (i : Int)
  | float (x : Float)
  | text (s : String)
  | bytes (data : List UInt8)
  | date (day : Day)
  | moment (time : Moment)
  | list (items : List Value)
  | pair (first second : Value)
  | map (entries : List (Value × Value))
  | set (items : List Value)
  /-- A collection that lies inside itself, under a label of its own. -/
  | knot (label : Nat) (content : Value)
  deriving Inhabited

/-- A value without the label that tells that it lies inside itself. -/
def Value.bare : Value → Value
  | .knot _ content => content
  | v => v

/-- A natural number with at least `width` digits. -/
def paddedNumber (width n : Nat) : String :=
  let digits := Nat.toDigits 10 n
  String.ofList (Decimal.zeros (width - digits.length) ++ digits)

def Day.display (d : Day) : String :=
  paddedNumber 4 d.year ++ "-" ++ paddedNumber 2 d.month ++ "-" ++ paddedNumber 2 d.day

/-- Hours, minutes and, unless they are zero, seconds of a distance to universal time. -/
def offsetText (seconds : Int) : String :=
  let n := seconds.natAbs
  (if seconds < 0 then "-" else "+") ++ paddedNumber 2 (n / 3600) ++ ":" ++
    paddedNumber 2 (n / 60 % 60) ++
    (if n % 60 = 0 then "" else ":" ++ paddedNumber 2 (n % 60))

/-- Day and time of day with `separator` between them. -/
def Moment.display (separator : String) (m : Moment) : String :=
  m.day.display ++ separator ++ paddedNumber 2 m.hour ++ ":" ++ paddedNumber 2 m.minute ++ ":" ++
    paddedNumber 2 m.second ++
    (if m.microsecond = 0 then "" else "." ++ paddedNumber 6 m.microsecond) ++
    (m.offset.map offsetText).getD ""

def Day.quoted (d : Day) : String :=
  s!"datetime.date({d.year}, {d.month}, {d.day})"

/-- The zone of a moment as it is shown inside a collection. -/
def zoneText (offset : Int) : String :=
  if offset = 0 then "datetime.timezone.utc"
  else
    -- A negative distance is counted as days back and seconds forward.
    let days := offset / 86400
    let seconds := offset % 86400
    let parts := (if days = 0 then [] else [s!"days={days}"]) ++
      (if seconds = 0 then [] else [s!"seconds={seconds}"])
    "datetime.timezone(datetime.timedelta(" ++ ", ".intercalate parts ++ "))"

def Moment.quoted (m : Moment) : String :=
  let shown := [m.day.year, m.day.month, m.day.day, m.hour, m.minute] ++
    (if m.microsecond = 0 then (if m.second = 0 then [] else [m.second])
      else [m.second, m.microsecond])
  "datetime.datetime(" ++ ", ".intercalate (shown.map toString) ++
    (m.offset.map fun o => ", tzinfo=" ++ zoneText o).getD "" ++ ")"

/-- Bytes as quoted text, every byte beyond printable ASCII escaped. -/
def bytesQuoted (data : List UInt8) : String :=
  let cs := data.map fun b => Char.ofNat b.toNat
  let mark := Text.quoteMark cs
  let visible (c : Char) : Bool := 32 ≤ c.toNat && c.toNat < 127
  String.ofList ('b' :: mark :: cs.flatMap (Text.escapeChar visible mark) ++ [mark])

def boolText (b : Bool) : String := if b then "True" else "False"

def intText (i : Int) : String :=
  Decimal.signed (i < 0) (Nat.toDigits 10 i.natAbs)

/-- What stands for a collection inside itself. -/
def ellipsis : Value → String
  | .map _ => "\x7b...\x7d"
  | _ => "[...]"

mutual

/-- The text of a value inside the collections with some labels: text is quoted. -/
def Value.quotedIn (labels : List Nat) : Value → String
  | .null => "None"
  | .bool b => boolText b
  | .int i => intText i
  | .float x => Decimal.shortest x
  | .text s => Text.quoted s
  | .bytes data => bytesQuoted data
  | .date d => d.quoted
  | .moment m => m.quoted
  | .list items => "[" ++ ", ".intercalate (quotedItems labels items) ++ "]"
  | .pair first second => "(" ++ first.quotedIn labels ++ ", " ++ second.quotedIn labels ++ ")"
  | .map entries => "\x7b" ++ ", ".intercalate (quotedEntries labels entries) ++ "\x7d"
  | .set [] => "set()"
  | .set items => "\x7b" ++ ", ".intercalate (quotedItems labels items) ++ "\x7d"
  | .knot label content =>
    if labels.contains label then ellipsis content else content.quotedIn (label :: labels)

def quotedItems (labels : List Nat) : List Value → List String
  | [] => []
  | v :: rest => v.quotedIn labels :: quotedItems labels rest

def quotedEntries (labels : List Nat) : List (Value × Value) → List String
  | [] => []
  | (k, v) :: rest =>
    (k.quotedIn labels ++ ": " ++ v.quotedIn labels) :: quotedEntries labels rest

end

/-- The text of a value inside a collection: text is quoted. -/
def Value.quoted (v : Value) : String := v.quotedIn []

/-- The text of a value in a message: text stands for itself. -/
def Value.display : Value → String
  | .text s => s
  | .date d => d.display
  | .moment m => m.display " "
  | v => v.quoted

/-- The name of a value's type in messages. -/
def Value.typeName : Value → String
  | .null => "NoneType"
  | .bool _ => "bool"
  | .int _ => "int"
  | .float _ => "float"
  | .text _ => "str"
  | .bytes _ => "bytes"
  | .date _ => "date"
  | .moment _ => "datetime"
  | .list _ => "list"
  | .pair _ _ => "tuple"
  | .map _ => "dict"
  | .set _ => "set"
  | .knot _ content => content.typeName

/-- Whether a value counts as present: null, false, zero and everything empty do not. -/
def Value.isPresent : Value → Bool
  | .null => false
  | .bool b => b
  | .int i => i ≠ 0
  | .float x => !(x == 0.0)
  | .text s => !s.isEmpty
  | .bytes data => !data.isEmpty
  | .date _ => true
  | .moment _ => true
  | .list items => !items.isEmpty
  | .pair _ _ => true
  | .map entries => !entries.isEmpty
  | .set items => !items.isEmpty
  | .knot _ content => content.isPresent

/-- Whether a value is this text. -/
def Value.isText (s : String) : Value → Bool
  | .text t => t == s
  | _ => false

/-- Whether a value can be a key: only values that never change can. -/
def Value.isKey : Value → Bool
  | .list _ | .map _ | .set _ | .knot _ _ => false
  | .pair first second => first.isKey && second.isKey
  | _ => true

/-- The exact value of a number; truth values count as one and zero. Numbers that are not finite
have none. -/
def Value.toRat? : Value → Option Rat
  | .bool b => some (if b then 1 else 0)
  | .int i => some i
  | .float x => Decimal.toRat? x
  | _ => none

/-- Whether two keys are the same key: numbers by value, whatever their type, all else by type and
content. The value that is no number is not even the same key as itself. -/
def Value.sameKey : Value → Value → Bool
  | .null, .null => true
  | .text a, .text b => a == b
  | .bytes a, .bytes b => a == b
  | .date a, .date b => a == b
  | .moment a, .moment b => a.isSame b
  | .float a, .float b => a == b
  | .float a, b =>
    match Decimal.toRat? a, b.toRat? with
    | some p, some q => p == q
    | _, _ => false
  | a, b =>
    match a.toRat?, b.toRat? with
    | some p, some q => p == q
    | _, _ => false

/-- Puts an entry into a map: a key that is there keeps its place and gets the new value. -/
def insertEntry (key value : Value) : List (Value × Value) → List (Value × Value)
  | [] => [(key, value)]
  | (k, v) :: rest =>
    if k.sameKey key then (k, value) :: rest else (k, v) :: insertEntry key value rest

/-- The entry of a map under a text key. -/
def member? (name : String) (entries : List (Value × Value)) : Option Value :=
  (entries.find? fun (k, _) => k.isText name).map (·.2)

/-- Whether a number lies below a whole number. Values that are no numbers have no answer. -/
def Value.below? (bound : Int) : Value → Option Bool
  | .bool b => some ((if b then (1 : Int) else 0) < bound)
  | .int i => some (i < bound)
  | .float x => some (x < Float.ofInt bound)
  | _ => none

/-- Whether a number lies at or below a whole number. -/
def Value.atMost? (bound : Int) : Value → Option Bool
  | .bool b => some ((if b then (1 : Int) else 0) ≤ bound)
  | .int i => some (i ≤ bound)
  | .float x => some (x ≤ Float.ofInt bound)
  | _ => none

end BuildBench
