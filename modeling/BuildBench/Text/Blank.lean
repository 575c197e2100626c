/-!
# Blank characters

Blank characters are those of Unicode that separate words or lines, with the four information
separators of ASCII among them. Text is stripped of blanks at its ends, or of one given character
at its end.
-/

namespace BuildBench.Text

/-- The blanks beyond ASCII. -/
def wideBlanks : List Nat :=
  [0x85, 0xa0, 0x1680, 0x2000, 0x2001, 0x2002, 0x2003, 0x2004, 0x2005, 0x2006, 0x2007, 0x2008,
   0x2009, 0x200a, 0x2028, 0x2029, 0x202f, 0x205f, 0x3000]

def isBlank (c : Char) : Bool :=
  (9 ≤ c.toNat && c.toNat ≤ 13) || (28 ≤ c.toNat && c.toNat ≤ 32) || wideBlanks.contains c.toNat

/-- Drops the characters at the end that satisfy `p`. -/
def dropEndWhile (p : Char → Bool) (cs : List Char) : List Char :=
  (cs.reverse.dropWhile p).reverse

/-- Text without the characters at both ends that satisfy `p`. -/
def trimBoth (p : Char → Bool) (s : String) : String :=
  String.ofList (dropEndWhile p (s.toList.dropWhile p))

/-- Text without the blanks at its ends. -/
def strip (s : String) : String := trimBoth isBlank s

/-- Text without the line feeds at its end. -/
def stripFinalNewlines (s : String) : String :=
  String.ofList (dropEndWhile (· == '\n') s.toList)

end BuildBench.Text
