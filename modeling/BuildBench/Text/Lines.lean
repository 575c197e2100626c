import BuildBench.Text.Blank

/-!
# Lines

A line ends at any of ten line boundaries; a carriage return followed by a line feed is one of
them. `joinStreams` puts the output of two streams one after the other so that no line holds text
of both.
-/

namespace BuildBench.Text

/-- The characters that end a line. -/
def isLineBreak (c : Char) : Bool :=
  (10 ≤ c.toNat && c.toNat ≤ 13) || (28 ≤ c.toNat && c.toNat ≤ 30) ||
    c.toNat = 0x85 || c.toNat = 0x2028 || c.toNat = 0x2029

/-- The lines of a text of which `line` was read already, last character first. An unfinished line
counts when it is not empty. -/
def linesFrom (line : List Char) : List Char → List (List Char)
  | [] => if line.isEmpty then [] else [line.reverse]
  | '\r' :: '\n' :: rest => line.reverse :: linesFrom [] rest
  | c :: rest =>
    if isLineBreak c then line.reverse :: linesFrom [] rest else linesFrom (c :: line) rest

/-- The lines of a text, without their boundaries. -/
def lines (s : String) : List String := (linesFrom [] s.toList).map String.ofList

/-- A non-empty text completed to whole lines. -/
def endLine (s : String) : String :=
  if s.isEmpty || s.toList.getLast? == some '\n' then s else s ++ "\n"

/-- What was captured of two streams, one after the other, each completed to whole lines. A stream
that was not captured adds nothing. -/
def joinCaptured (first second : Option String) : String :=
  endLine (first.getD "") ++ endLine (second.getD "")

/-- One stream after the other, each completed to whole lines. -/
def joinStreams (first second : String) : String := joinCaptured (some first) (some second)

/-- Line ends of all three conventions become line feeds. -/
def plainNewlines : List Char → List Char
  | [] => []
  | '\r' :: '\n' :: rest => '\n' :: plainNewlines rest
  | c :: rest => (if c == '\r' then '\n' else c) :: plainNewlines rest

/-- Text with blanks before it, at least `width` characters long. -/
def padStart (width : Nat) (s : String) : String :=
  String.ofList (List.replicate (width - s.length) ' ') ++ s

/-- Text with blanks after it, at least `width` characters long. -/
def padEnd (width : Nat) (s : String) : String :=
  s ++ String.ofList (List.replicate (width - s.length) ' ')

/-- Characters in which a carriage return before a line feed is left out. -/
def joinedLineEnds : List Char → List Char
  | [] => []
  | c :: rest =>
    if c = '\r' && rest.head? == some '\n' then joinedLineEnds rest else c :: joinedLineEnds rest

/-- Text in which a carriage return and a line feed together are one line feed. -/
def withLineFeeds (s : String) : String := String.ofList (joinedLineEnds s.toList)

end BuildBench.Text
