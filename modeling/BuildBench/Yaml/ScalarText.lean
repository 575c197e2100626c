import BuildBench.Yaml.Cursor
import BuildBench.Json.Reading

/-!
# The text of scalars

Scalars are written plain, quoted, or as blocks of lines. A line end inside a plain or quoted
scalar becomes a blank, and empty lines become line ends; a block keeps its lines or folds them.
-/

namespace BuildBench.Yaml

open BuildBench.Yaml.Cursor

/-- The text that replaces one line end followed by empty lines. -/
def folded (lineEnd : List Char) (emptyLines : List Char) : List Char :=
  (if lineEnd != ['\n'] then lineEnd else if emptyLines.isEmpty then [' '] else []) ++ emptyLines

/-! ## Plain scalars -/

/-- Whether a plain scalar ends at the place `n` ahead. -/
def endsPlain (inFlow : Bool) (c : Cursor) (n : Nat) : Bool :=
  let ch := c.peek n
  isBlankOrEnd ch ||
    (ch == ':' && (isBlankOrEnd (c.peek (n + 1)) ||
      (inFlow && (",[]".toList.contains (c.peek (n + 1)) ||
        (c.peek (n + 1)).toNat = 0x7b || (c.peek (n + 1)).toNat = 0x7d)))) ||
    (inFlow && (",?[]".toList.contains ch || ch.toNat = 0x7b || ch.toNat = 0x7d))

/-- How many characters lie before the end of a plain scalar's word. -/
def plainWordLength (inFlow : Bool) (c : Cursor) : Nat → Nat → Nat
  | 0, n => n
  | fuel + 1, n => if endsPlain inFlow c n then n else plainWordLength inFlow c fuel (n + 1)

/-- Empty lines ahead, up to a document separator. The flag says that there is none. -/
def emptyPlainLines : Nat → List Char → Cursor → List Char × Cursor × Bool
  | 0, done, c => (done, c, true)
  | fuel + 1, done, c =>
    if c.peek == ' ' then emptyPlainLines fuel done c.step
    else if isBreak c.peek then
      let (b, c) := c.lineBreak
      if c.atSeparator then (done ++ b, c, false) else emptyPlainLines fuel (done ++ b) c
    else (done, c, true)

/-- What lies between two words of a plain scalar, where the cursor is then, and whether a line
ended on the way. Nothing when the scalar cannot go on. -/
def plainGap (c : Cursor) : Option (List Char) × Cursor × Bool :=
  let (spaces, c) := c.span (· == ' ')
  if isBreak c.peek then
    let (lineEnd, c) := c.lineBreak
    if c.atSeparator then (none, c, true)
    else
      match emptyPlainLines (c.rest.length + 1) [] c with
      | (empties, c, true) => (some (folded lineEnd empties), c, true)
      | (_, c, false) => (none, c, true)
  else if spaces.isEmpty then (none, c, false)
  else (some spaces, c, false)

/-- The text of a plain scalar, the cursor behind it and the blanks that follow it, and whether a
line ended in those blanks. -/
def plainText (inFlow : Bool) (indent : Int) :
    Nat → List Char → List Char → Bool → Cursor → List Char × Cursor × Bool
  | 0, done, _, ended, c => (done, c, ended)
  | fuel + 1, done, gap, ended, c =>
    let n := if c.peek == '#' then 0 else plainWordLength inFlow c c.rest.length 0
    if n = 0 then (done, c, ended)
    else
      let done := done ++ gap ++ c.rest.take n
      match plainGap (c.advance n) with
      | (none, c, ended) => (done, c, ended)
      | (some gap, c, ended) =>
        if c.peek == '#' || (!inFlow && (c.column : Int) < indent) then (done, c, ended)
        else plainText inFlow indent fuel done gap ended c

/-! ## Quoted scalars -/

/-- The characters that one letter after a backslash writes. -/
def escapeLetter? (ch : Char) : Option Char :=
  (([('0', 0), ('a', 7), ('b', 8), ('t', 9), ('\t', 9), ('n', 10), ('v', 11), ('f', 12), ('r', 13),
    ('e', 27), (' ', 32), ('"', 34), ('\\', 92), ('/', 47), ('N', 0x85), ('_', 0xa0),
    ('L', 0x2028), ('P', 0x2029)] : List (Char × Nat)).find? (·.1 == ch)).map fun (_, n) =>
      Char.ofNat n

/-- How many hexadecimal digits follow a letter after a backslash. -/
def escapeWidth? (ch : Char) : Option Nat :=
  if ch == 'x' then some 2 else if ch == 'u' then some 4 else if ch == 'U' then some 8 else none

/-- Line ends and blanks at the beginning of the lines that continue a quoted scalar. A document may
not end there. -/
def quotedBreaks : Nat → List Char → Cursor → Except Defect (List Char × Cursor)
  | 0, _, _ => malformed
  | fuel + 1, done, c =>
    if c.atSeparator then malformed
    else
      let c := c.skip fun ch => ch == ' ' || ch == '\t'
      if isBreak c.peek then
        let (b, c) := c.lineBreak
        quotedBreaks fuel (done ++ b) c
      else .ok (done, c)

/-- The character that an escape writes, the cursor standing behind the backslash. -/
def escaped (c : Cursor) : Except Defect (List Char × Cursor) :=
  let ch := c.peek
  match escapeLetter? ch, escapeWidth? ch with
  | some e, _ => .ok ([e], c.step)
  | none, some width =>
    let c := c.step
    let digits := (c.rest.take width).filterMap Json.hexValue?
    if digits.length < width then malformed
    else
      let n := digits.foldl (fun n d => 16 * n + d) 0
      if 0x110000 ≤ n then .error (.noCharacter n)
      else .ok ([Text.charOfEscape n], c.advance width)
  | none, none =>
    if isBreak ch then quotedBreaks (c.rest.length + 1) [] c.lineBreak.2 else malformed

/-- The text of a quoted scalar whose opening mark was read. -/
def quotedText (mark : Char) : Nat → List Char → Cursor → Except Defect (List Char × Cursor)
  | 0, _, _ => malformed
  | fuel + 1, done, c => do
    let ch := c.peek
    let isDouble := mark == '"'
    if ch == mark then
      if !isDouble && c.peek 1 == mark then quotedText mark fuel (done ++ [mark]) (c.advance 2)
      else return (done, c.step)
    else if isDouble && ch == '\\' then
      let (text, c) ← escaped c.step
      quotedText mark fuel (done ++ text) c
    else if ch == ' ' || ch == '\t' || isBreakOrEnd ch then
      let (blanks, c) := c.span fun ch => ch == ' ' || ch == '\t'
      if c.peek == atEnd then malformed
      else if isBreak c.peek then
        let (lineEnd, c) := c.lineBreak
        let (empties, c) ← quotedBreaks (c.rest.length + 1) [] c
        quotedText mark fuel (done ++ folded lineEnd empties) c
      else quotedText mark fuel (done ++ blanks) c
    else
      let (word, c) := c.span fun ch =>
        ch != '"' && ch.toNat != 39 && ch != '\\' && !isBlankOrEnd ch
      if word.isEmpty then quotedText mark fuel (done ++ [ch]) c.step
      else quotedText mark fuel (done ++ word) c

/-! ## Block scalars -/

/-- What the header of a block says about the line ends after its last line. -/
inductive Chomping where
  | clip
  | strip
  | keep
  deriving DecidableEq

/-- A digit from one to nine tells how far a block is indented. -/
def indentationDigit (c : Cursor) : Except Defect (Option Nat × Cursor) :=
  if c.peek == '0' then malformed
  else if c.peek.isDigit then .ok (some (c.peek.toNat - 48), c.step)
  else .ok (none, c)

def chompingMark (c : Cursor) : Option Chomping × Cursor :=
  if c.peek == '+' then (some .keep, c.step)
  else if c.peek == '-' then (some .strip, c.step)
  else (none, c)

/-- The two parts of a block's header, in either order. -/
def blockHeader (c : Cursor) : Except Defect (Chomping × Option Nat × Cursor) := do
  let (first, c) := chompingMark c
  let (digit, c) ← indentationDigit c
  let (second, c) := if first.isNone && digit.isSome then chompingMark c else (none, c)
  if isSpaceOrEnd c.peek then return ((first <|> second).getD .clip, digit, c) else malformed

/-- The rest of a line that may only hold a comment. -/
def ignoredLine (c : Cursor) : Except Defect Cursor :=
  let c := c.skipSpaces
  let c := if c.peek == '#' then c.skip (!isBreakOrEnd ·) else c
  if isBreakOrEnd c.peek then .ok c.lineBreak.2 else malformed

/-- Leading empty lines of a block whose indentation is not given, and the widest indentation seen
on the way. -/
def leadingLines : Nat → List Char → Nat → Cursor → List Char × Nat × Cursor
  | 0, done, widest, c => (done, widest, c)
  | fuel + 1, done, widest, c =>
    if c.peek == ' ' then leadingLines fuel done (max widest c.step.column) c.step
    else if isBreak c.peek then
      let (b, c) := c.lineBreak
      leadingLines fuel (done ++ b) widest c
    else (done, widest, c)

/-- Skips at most the indentation of a block. -/
def skipIndent (indent : Nat) : Nat → Cursor → Cursor
  | 0, c => c
  | fuel + 1, c =>
    if c.column < indent && c.peek == ' ' then skipIndent indent fuel c.step else c

/-- Empty lines within a block. -/
def blockBreaks (indent : Nat) : Nat → List Char → Cursor → List Char × Cursor
  | 0, done, c => (done, c)
  | fuel + 1, done, c =>
    let c := skipIndent indent indent c
    if isBreak c.peek then
      let (b, c) := c.lineBreak
      blockBreaks indent fuel (done ++ b) c
    else (done, c)

/-- The lines of a block: its text up to the end of the last line, the line end after it, the empty
lines after that, and the cursor behind them. A folded block joins two lines unless one of them
begins with a blank. -/
def blockLines (isFolded : Bool) (indent : Nat) :
    Nat → List Char → List Char → List Char → Cursor → List Char × List Char × List Char × Cursor
  | 0, done, lineEnd, breaks, c => (done, lineEnd, breaks, c)
  | fuel + 1, done, lineEnd, breaks, c =>
    if c.column = indent && c.peek != atEnd then
      let startsBlank := c.peek == ' ' || c.peek == '\t'
      let (line, c) := c.span (!isBreakOrEnd ·)
      let done := done ++ breaks ++ line
      let (lineEnd, c) := c.lineBreak
      let (breaks, c) := blockBreaks indent (c.rest.length + 1) [] c
      if c.column = indent && c.peek != atEnd then
        let joins := isFolded && lineEnd == ['\n'] && !startsBlank &&
          !(c.peek == ' ' || c.peek == '\t')
        let between := if joins then (if breaks.isEmpty then [' '] else []) else lineEnd
        blockLines isFolded indent fuel (done ++ between) lineEnd breaks c
      else (done, lineEnd, breaks, c)
    else (done, lineEnd, breaks, c)

/-- The text of a block whose style mark was read, inside a collection indented by `outer`. -/
def blockText (isFolded : Bool) (outer : Int) (c : Cursor) :
    Except Defect (List Char × Cursor) := do
  let (chomping, digit, c) ← blockHeader c
  let c ← ignoredLine c
  let least := (max (outer + 1) 1).toNat
  let (breaks, indent, c) := match digit with
    | none =>
      let (breaks, widest, c) := leadingLines (c.rest.length + 1) [] 0 c
      (breaks, max least widest, c)
    | some n =>
      let indent := least + n - 1
      let (breaks, c) := blockBreaks indent (c.rest.length + 1) [] c
      (breaks, indent, c)
  let (text, lineEnd, breaks, c) := blockLines isFolded indent (c.rest.length + 1) [] [] breaks c
  let tail := match chomping with
    | .strip => []
    | .clip => lineEnd
    | .keep => lineEnd ++ breaks
  return (text ++ tail, c)

end BuildBench.Yaml
