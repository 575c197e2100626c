import BuildBench.Json.Reading

/-!
# Forms of plain scalars

Every node has a tag that tells what kind of value it stands for. A plain scalar without a tag gets
the one that its form implies; `impliedTag` holds these forms.
-/

namespace BuildBench.Yaml

/-- The tag of a kind of value that every document knows. -/
def coreTag (kind : String) : String := "tag:yaml.org,2002:" ++ kind

def isOctal (c : Char) : Bool := '0' ≤ c && c ≤ '7'

def isDigitOrBar (c : Char) : Bool := c.isDigit || c == '_'

/-- A sign at the beginning of a numeral is optional. -/
def dropSign : List Char → List Char
  | '-' :: rest | '+' :: rest => rest
  | cs => cs

/-- Some characters that all satisfy `p`, at least one. -/
def allAndSome (p : Char → Bool) (cs : List Char) : Bool := !cs.isEmpty && cs.all p

/-- Rows of base-sixty digits, each behind a colon, and what follows them. At least one is there. -/
def afterSexagesimal : Nat → List Char → Option (List Char)
  | 0, _ => none
  | fuel + 1, ':' :: rest =>
    let next (after : List Char) : Option (List Char) :=
      match after with
      | ':' :: _ => afterSexagesimal fuel after
      | _ => some after
    match rest with
    | a :: b :: more =>
      if '0' ≤ a && a ≤ '5' && b.isDigit then next more
      else if a.isDigit then next (b :: more) else none
    | [a] => if a.isDigit then some [] else none
    | [] => none
  | _ + 1, _ => none

def isIntForm (cs : List Char) : Bool :=
  let body := dropSign cs
  let sexagesimal :=
    match body with
    | d :: rest =>
      d.isDigit && d != '0' &&
        afterSexagesimal (cs.length + 1) (rest.dropWhile isDigitOrBar) == some []
    | [] => false
  sexagesimal ||
    match body with
    | ['0'] => true
    | '0' :: 'b' :: rest => allAndSome (fun c => c == '0' || c == '1' || c == '_') rest
    | '0' :: 'x' :: rest => allAndSome (fun c => (Json.hexValue? c).isSome || c == '_') rest
    | '0' :: rest => allAndSome (fun c => isOctal c || c == '_') rest
    | d :: rest => d.isDigit && rest.all isDigitOrBar
    | [] => false

/-- An exponent has a sign and digits, or is missing. -/
def isExponentForm : List Char → Bool
  | [] => true
  | e :: sign :: digits =>
    (e == 'e' || e == 'E') && (sign == '-' || sign == '+') && allAndSome Char.isDigit digits
  | _ => false

def isFloatForm (cs : List Char) : Bool :=
  let body := dropSign cs
  let word := String.ofList body
  (word == ".inf" || word == ".Inf" || word == ".INF") ||
    (let whole := String.ofList cs
     whole == ".nan" || whole == ".NaN" || whole == ".NAN") ||
    match cs with
    | '.' :: d :: rest => d.isDigit && isExponentForm (rest.dropWhile isDigitOrBar)
    | _ =>
      match body with
      | d :: rest =>
        d.isDigit &&
          match rest.dropWhile isDigitOrBar with
          | '.' :: fraction => isExponentForm (fraction.dropWhile isDigitOrBar)
          | tail =>
            match afterSexagesimal (cs.length + 1) tail with
            | some ('.' :: fraction) => fraction.all isDigitOrBar
            | _ => false
      | [] => false

/-- The parts of a moment as they are written. -/
structure MomentText where
  year : List Char
  month : List Char
  day : List Char
  time : Option (List Char × List Char × List Char) := none
  fraction : List Char := []
  /-- The sign, the hours and the minutes of the distance to universal time. -/
  zone : Option (Char × List Char × List Char) := none
  universal : Bool := false

/-- Between `least` and `most` digits, as many as there are, and what follows. -/
def takeDigits (least most : Nat) (cs : List Char) : Option (List Char × List Char) :=
  let digits := (cs.take most).takeWhile Char.isDigit
  if digits.length < least then none else some (digits, cs.drop digits.length)

def takeChar (c : Char) : List Char → Option (List Char)
  | d :: rest => if c == d then some rest else none
  | [] => none

def dropBlanks (cs : List Char) : List Char := cs.dropWhile fun c => c == ' ' || c == '\t'

/-- The distance to universal time at the end of a moment. -/
def zoneText? (m : MomentText) (cs : List Char) : Option MomentText :=
  if cs.isEmpty then some m
  else
    match dropBlanks cs with
    | ['Z'] => some { m with universal := true }
    | sign :: rest =>
      if sign == '+' || sign == '-' then do
        let (hours, rest) ← takeDigits 1 2 rest
        match rest with
        | [] => return { m with zone := some (sign, hours, []) }
        | _ =>
          let (minutes, rest) ← takeChar ':' rest >>= takeDigits 2 2
          if rest.isEmpty then return { m with zone := some (sign, hours, minutes) } else none
      else none
    | [] => none

/-- The time of day behind a day. -/
def timeText? (m : MomentText) (cs : List Char) : Option MomentText := do
  let (hour, rest) ← takeDigits 1 2 cs
  let (minute, rest) ← takeChar ':' rest >>= takeDigits 2 2
  let (second, rest) ← takeChar ':' rest >>= takeDigits 2 2
  let m := { m with time := some (hour, minute, second) }
  match rest with
  | '.' :: more =>
    let fraction := more.takeWhile Char.isDigit
    zoneText? { m with fraction := fraction } (more.drop fraction.length)
  | _ => zoneText? m rest

/-- The parts of a day or of a moment. -/
def momentText? (cs : List Char) : Option MomentText := do
  let (year, rest) ← takeDigits 4 4 cs
  let (month, rest) ← takeChar '-' rest >>= takeDigits 1 2
  let (day, rest) ← takeChar '-' rest >>= takeDigits 1 2
  let m : MomentText := { year := year, month := month, day := day }
  match rest with
  | [] => return m
  | c :: more =>
    if c == 'T' || c == 't' then timeText? m more
    else if c == ' ' || c == '\t' then timeText? m (dropBlanks more)
    else none

/-- A day without a time of day is a moment's form only when month and day have two digits. -/
def isMomentForm (cs : List Char) : Bool :=
  match momentText? cs with
  | some m => m.time.isSome || (m.month.length = 2 && m.day.length = 2)
  | none => false

def truthWords : List (String × Bool) :=
  [("yes", true), ("no", false), ("true", true), ("false", false), ("on", true), ("off", false)]

/-- The spellings of a word: lower case, capitalised, upper case. -/
def spellings (word : String) : List String := [word, word.capitalize, word.map Char.toUpper]

def isTruthForm (s : String) : Bool := truthWords.any fun (word, _) => (spellings word).contains s

/-- A final line end does not count. -/
def dropFinalLineEnd (cs : List Char) : List Char :=
  match cs.reverse with
  | '\n' :: rest => rest.reverse
  | _ => cs

/-- The tag that a scalar's form implies. -/
def impliedTag (text : String) : String :=
  let cs := text.toList
  let body := dropFinalLineEnd cs
  let s := String.ofList body
  if cs.isEmpty then coreTag "null"
  else if body.isEmpty then coreTag "str"
  else if isTruthForm s then coreTag "bool"
  else if isFloatForm body then coreTag "float"
  else if isIntForm body then coreTag "int"
  else if s == "<<" then coreTag "merge"
  else if s == "~" || (spellings "null").contains s then coreTag "null"
  else if isMomentForm body then coreTag "timestamp"
  else if s == "=" then coreTag "value"
  else coreTag "str"

end BuildBench.Yaml
