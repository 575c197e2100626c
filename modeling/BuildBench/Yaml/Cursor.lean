/-!
# A place in a document

A cursor is what is left of a document together with the line and column reached. Past the end it
shows a character that no document may contain.
-/

namespace BuildBench.Yaml

/-- Why a document has no nodes: its text does not follow the grammar, an escape writes a number
that is no character, a version has too many digits, or collections nest too deep. -/
inductive Defect where
  | malformed
  | noCharacter (number : Nat)
  | tooManyDigits (count : Nat)
  | tooDeep
  deriving Repr, DecidableEq

structure Cursor where
  rest : List Char
  index : Nat := 0
  line : Nat := 0
  column : Nat := 0

namespace Cursor

/-- What a cursor shows past the end. -/
def atEnd : Char := Char.ofNat 0

def next : Char := Char.ofNat 0x85

def lineSeparator : Char := Char.ofNat 0x2028

def paragraphSeparator : Char := Char.ofNat 0x2029

/-- The character `n` places ahead. -/
def peek (c : Cursor) (n : Nat := 0) : Char := (c.rest[n]?).getD atEnd

def isBreak (ch : Char) : Bool :=
  ch == '\n' || ch == '\r' || ch == next || ch == lineSeparator || ch == paragraphSeparator

/-- Ends a line or the document. -/
def isBreakOrEnd (ch : Char) : Bool := isBreak ch || ch == atEnd

def isSpaceOrEnd (ch : Char) : Bool := ch == ' ' || isBreakOrEnd ch

/-- Ends a word: a blank, a line end or the end of the document. -/
def isBlankOrEnd (ch : Char) : Bool := ch == '\t' || isSpaceOrEnd ch

/-- Goes one character on. A carriage return before a line feed does not end the line. -/
def step (c : Cursor) : Cursor :=
  match c.rest with
  | [] => c
  | ch :: rest =>
    if isBreak ch && !(ch == '\r' && rest.head? == some '\n') then
      ⟨rest, c.index + 1, c.line + 1, 0⟩
    else if ch.toNat = 0xFEFF then ⟨rest, c.index + 1, c.line, c.column⟩
    else ⟨rest, c.index + 1, c.line, c.column + 1⟩

def advance (c : Cursor) : Nat → Cursor
  | 0 => c
  | n + 1 => c.step.advance n

/-- The characters ahead that satisfy `p`, and the cursor behind them. -/
def span (c : Cursor) (p : Char → Bool) : List Char × Cursor :=
  let taken := c.rest.takeWhile p
  (taken, c.advance taken.length)

def skip (c : Cursor) (p : Char → Bool) : Cursor := (c.span p).2

def skipSpaces (c : Cursor) : Cursor := c.skip (· == ' ')

/-- The text of the line end ahead, if there is one. Line ends are line feeds, but the two
separators stay what they are. -/
def lineBreak (c : Cursor) : List Char × Cursor :=
  let ch := c.peek
  if ch == '\r' && c.peek 1 == '\n' then (['\n'], c.advance 2)
  else if ch == '\r' || ch == '\n' || ch == next then (['\n'], c.step)
  else if isBreak ch then ([ch], c.step)
  else ([], c)

/-- Whether a marker of three characters, alone in its word, stands ahead. -/
def marks (c : Cursor) (mark : Char) : Bool :=
  c.peek == mark && c.peek 1 == mark && c.peek 2 == mark && isBlankOrEnd (c.peek 3)

/-- Whether the start or the end of a document stands ahead. -/
def atSeparator (c : Cursor) : Bool := c.marks '-' || c.marks '.'

end Cursor

def malformed {α : Type} : Except Defect α := .error .malformed

end BuildBench.Yaml
