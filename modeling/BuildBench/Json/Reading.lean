import BuildBench.Decimal.Numeral
import BuildBench.Value.Basic

/-!
# Reading JSON

A document is read into a `Value`. Beyond the standard the words `NaN`, `Infinity` and `-Infinity`
are numbers, and of two members with one name the last one counts. A number with a fraction or an
exponent is a float, any other a whole number of any size.
-/

namespace BuildBench.Json

/-- What is wrong at some place of a document. -/
inductive Defect where
  | valueExpected
  | nameExpected
  | colonExpected
  | commaExpected
  | unterminated
  | controlCharacter
  | badEscape
  | badUnicodeEscape
  | extraData
  | byteOrderMark
  deriving Repr, DecidableEq

def Defect.wording : Defect → String
  | .valueExpected => "Expecting value"
  | .nameExpected => "Expecting property name enclosed in double quotes"
  | .colonExpected => "Expecting ':' delimiter"
  | .commaExpected => "Expecting ',' delimiter"
  | .unterminated => "Unterminated string starting at"
  | .controlCharacter => "Invalid control character at"
  | .badEscape => "Invalid \\escape"
  | .badUnicodeEscape => "Invalid \\uXXXX escape"
  | .extraData => "Extra data"
  | .byteOrderMark => "Unexpected UTF-8 BOM (decode using utf-8-sig)"

/-- What nests in a document. -/
inductive Nested where
  | array
  | object
  deriving Repr, DecidableEq

def Nested.name : Nested → String
  | .array => "array"
  | .object => "object"

/-- Why a document cannot be read. The place of a defect is given by the number of characters that
are left from there on. -/
inductive ReadError where
  | malformed (defect : Defect) (left : Nat)
  | nestedTooDeep (nested : Nested)
  | tooManyDigits (count : Nat)
  deriving Repr, DecidableEq

/-- A defect and its place in a document: line and column, both counted from one, and the number of
characters before it. -/
def defectText (document : List Char) (defect : Defect) (left : Nat) : String :=
  let before := document.take (document.length - left)
  let line := before.count '\n' + 1
  let column := (before.reverse.takeWhile (· != '\n')).length + 1
  defect.wording ++ ": line " ++ toString line ++ " column " ++ toString column ++ " (char " ++
    toString before.length ++ ")"

/-- Arrays and objects may nest this deep. -/
def nestingLimit : Nat := 990

def isSpace (c : Char) : Bool := c == ' ' || c == '\t' || c == '\n' || c == '\r'

def skipSpace (cs : List Char) : List Char := cs.dropWhile isSpace

def hexValue? (c : Char) : Option Nat :=
  if c.isDigit then some (c.toNat - 48)
  else if 'a' ≤ c && c ≤ 'f' then some (c.toNat - 87)
  else if 'A' ≤ c && c ≤ 'F' then some (c.toNat - 55)
  else none

/-- The number that exactly four hexadecimal digits write, and what follows. -/
def fourHex : List Char → Option (Nat × List Char)
  | a :: b :: c :: d :: rest => do
    let a ← hexValue? a
    let b ← hexValue? b
    let c ← hexValue? c
    let d ← hexValue? d
    return (((a * 16 + b) * 16 + c) * 16 + d, rest)
  | _ => none

/-- The character after a backslash and the letter u. Two escapes in a row can write one character
beyond the basic plane; half a pair on its own is kept as it is. The digits must not end the text.
-/
def unicodeEscape (cs : List Char) : Option (Char × List Char) := do
  let (n, rest) ← fourHex cs
  if rest.isEmpty then none
  else
    let single := (Text.charOfEscape n, rest)
    match rest with
    | '\\' :: 'u' :: more =>
      match fourHex more with
      | some (m, tail) =>
        if 0xD800 ≤ n && n < 0xDC00 && 0xDC00 ≤ m && m < 0xE000 && !tail.isEmpty then
          return (Char.ofNat (0x10000 + (n - 0xD800) * 0x400 + (m - 0xDC00)), tail)
        else return single
      | none => return single
    | _ => return single

/-- The one-letter escapes. -/
def plainEscape? (c : Char) : Option Char :=
  if c == '"' || c == '\\' || c == '/' then some c
  else if c == 'b' then some (Char.ofNat 8)
  else if c == 'f' then some (Char.ofNat 12)
  else if c == 'n' then some '\n'
  else if c == 'r' then some '\r'
  else if c == 't' then some '\t'
  else none

/-- The rest of a string whose opening quote was read, and what follows the closing one. From the
opening quote on `whole` characters are left. Every step uses up a character. -/
def stringRest (whole : Nat) : Nat → List Char → List Char → Except ReadError (String × List Char)
  | 0, _, _ | _, _, [] => .error (.malformed .unterminated whole)
  | fuel + 1, done, c :: rest =>
    if c == '"' then .ok (String.ofList done.reverse, rest)
    else if c == '\\' then
      match rest with
      | 'u' :: more =>
        match unicodeEscape more with
        | some (d, tail) => stringRest whole fuel (d :: done) tail
        | none => .error (.malformed .badUnicodeEscape rest.length)
      | e :: more =>
        match plainEscape? e with
        | some d => stringRest whole fuel (d :: done) more
        | none => .error (.malformed .badEscape (rest.length + 1))
      | [] => .error (.malformed .unterminated whole)
    else if c.toNat < 32 then .error (.malformed .controlCharacter (rest.length + 1))
    else stringRest whole fuel (c :: done) rest

def readString (cs : List Char) : Except ReadError (String × List Char) :=
  stringRest (cs.length + 1) cs.length [] cs

/-- The exponent at the beginning of some characters; a letter without digits is no exponent. -/
def exponentPart (cs : List Char) : List Char × List Char :=
  match cs with
  | e :: rest =>
    if e == 'e' || e == 'E' then
      let (mark, rest) := match rest with
        | '-' :: more => (['-'], more)
        | '+' :: more => (['+'], more)
        | _ => ([], rest)
      let digits := rest.takeWhile Char.isDigit
      if digits.isEmpty then ([], cs) else (e :: mark ++ digits, rest.drop digits.length)
    else ([], cs)
  | [] => ([], cs)

/-- The number at the beginning of some characters, and what follows. -/
def readNumber (cs : List Char) : Except ReadError (Value × List Char) :=
  let (negative, body) := match cs with
    | '-' :: rest => (true, rest)
    | _ => (false, cs)
  let whole := match body with
    | '0' :: _ => ['0']
    | _ => body.takeWhile Char.isDigit
  if whole.isEmpty then .error (.malformed .valueExpected cs.length)
  else
    let rest := body.drop whole.length
    let (fraction, rest) := match rest with
      | '.' :: more =>
        let digits := more.takeWhile Char.isDigit
        if digits.isEmpty then ([], rest) else (digits, more.drop digits.length)
      | _ => ([], rest)
    let (exponent, rest) := exponentPart rest
    if fraction.isEmpty && exponent.isEmpty then
      match Decimal.wholeNumber negative whole with
      | .ok n => .ok (.int n, rest)
      | .error (.tooManyDigits count) => .error (.tooManyDigits count)
      | .error .noNumeral => .error (.malformed .valueExpected cs.length)
    else
      let e := (Decimal.exponent? exponent).getD 0
      .ok (.float (Decimal.ofScientific negative (Decimal.ofDigits (whole ++ fraction))
        (e - fraction.length)), rest)

/-- What follows a word at the beginning of some characters. -/
def afterWord (word : String) (cs : List Char) : Option (List Char) :=
  if word.toList.isPrefixOf cs then some (cs.drop word.length) else none

/-- The words that are values. -/
def readWord (cs : List Char) : Option (Value × List Char) :=
  [("null", Value.null), ("true", .bool true), ("false", .bool false),
   ("NaN", .float Decimal.notANumber), ("Infinity", .float Decimal.infinity),
   ("-Infinity", .float (-Decimal.infinity))].findSome? fun (word, value) =>
    (afterWord word cs).map (value, ·)

mutual

/-- The value at the beginning of some characters, and what follows. Every call uses up a character
or ends, so `fuel` characters are read; `depth` more levels may be opened. -/
def readValue : Nat → Nat → List Char → Except ReadError (Value × List Char)
  | 0, _, cs => .error (.malformed .valueExpected cs.length)
  | fuel + 1, depth, cs =>
    match cs with
    | '"' :: rest => (readString rest).map fun (s, tail) => (.text s, tail)
    | '[' :: rest =>
      if depth = 0 then .error (.nestedTooDeep .array)
      else match skipSpace rest with
        | ']' :: tail => .ok (.list [], tail)
        | _ => do
          let (items, tail) ← readItems fuel (depth - 1) rest
          return (.list items, tail)
    | c :: rest =>
      if c.toNat = 0x7b then
        if depth = 0 then .error (.nestedTooDeep .object)
        else do
          let tail := skipSpace rest
          match tail with
          | d :: after =>
            if d.toNat = 0x7d then return (.map [], after)
            else
              let (entries, tail) ← readMembers fuel (depth - 1) [] tail
              return (.map entries, tail)
          | [] => .error (.malformed .nameExpected 0)
      else
        match readWord cs with
        | some found => .ok found
        | none => readNumber cs
    | [] => .error (.malformed .valueExpected 0)

/-- The items of an array up to its closing bracket. -/
def readItems : Nat → Nat → List Char → Except ReadError (List Value × List Char)
  | 0, _, cs => .error (.malformed .valueExpected cs.length)
  | fuel + 1, depth, cs => do
    let (value, rest) ← readValue fuel depth (skipSpace cs)
    let rest := skipSpace rest
    match rest with
    | ',' :: more =>
      let (items, tail) ← readItems fuel depth more
      return (value :: items, tail)
    | ']' :: tail => return ([value], tail)
    | _ => .error (.malformed .commaExpected rest.length)

/-- The members of an object up to its closing brace, added to `entries`. -/
def readMembers : Nat → Nat → List (Value × Value) → List Char →
    Except ReadError (List (Value × Value) × List Char)
  | 0, _, _, cs => .error (.malformed .nameExpected cs.length)
  | fuel + 1, depth, entries, cs => do
    match cs with
    | '"' :: rest =>
      let (name, rest) ← readString rest
      let rest := skipSpace rest
      match rest with
      | ':' :: rest =>
        let (value, rest) ← readValue fuel depth (skipSpace rest)
        let entries := insertEntry (.text name) value entries
        let rest := skipSpace rest
        match rest with
        | ',' :: more => readMembers fuel depth entries (skipSpace more)
        | c :: tail =>
          if c.toNat = 0x7d then return (entries, tail)
          else .error (.malformed .commaExpected rest.length)
        | [] => .error (.malformed .commaExpected 0)
      | _ => .error (.malformed .colonExpected rest.length)
    | _ => .error (.malformed .nameExpected cs.length)

end

/-- The value of a whole document. -/
def parse (s : String) : Except ReadError Value := do
  let cs := skipSpace s.toList
  if s.toList.head? == some (Char.ofNat 0xFEFF) then
    throw (.malformed .byteOrderMark s.toList.length)
  let (value, rest) ← readValue (2 * cs.length + 2) nestingLimit cs
  let rest := skipSpace rest
  if rest.isEmpty then return value else throw (.malformed .extraData rest.length)

end BuildBench.Json
