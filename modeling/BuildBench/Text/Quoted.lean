import BuildBench.Text.Printable
import BuildBench.Text.Surrogate

/-!
# Quoted text

A text is shown between apostrophes, or between double quotes when it holds an apostrophe and no
double quote. Characters without a visible form are written as escapes, so that the quoted text has
one line and shows every character.
-/

namespace BuildBench.Text

def apostrophe : Char := Char.ofNat 39

def doubleQuote : Char := Char.ofNat 34

/-- A number in base sixteen with at least `width` digits. -/
def hexDigits (width n : Nat) : List Char :=
  let digits := Nat.toDigits 16 n
  List.replicate (width - digits.length) '0' ++ digits

/-- The quotation mark around a text. -/
def quoteMark (cs : List Char) : Char :=
  if cs.contains apostrophe && !cs.contains doubleQuote then doubleQuote else apostrophe

/-- The shortest numeric escape that fits a character. -/
def numericEscape (n : Nat) : List Char :=
  if n < 0x100 then '\\' :: 'x' :: hexDigits 2 n
  else if n < 0x10000 then '\\' :: 'u' :: hexDigits 4 n
  else '\\' :: 'U' :: hexDigits 8 n

/-- One character inside quotation marks. `visible` says which characters stand for themselves. -/
def escapeChar (visible : Char → Bool) (mark c : Char) : List Char :=
  if c == mark || c == '\\' then ['\\', c]
  else if c == '\t' then ['\\', 't']
  else if c == '\n' then ['\\', 'n']
  else if c == '\r' then ['\\', 'r']
  else if visible c then [c]
  else numericEscape (shownNumber c)

def quoteWith (visible : Char → Bool) (s : String) : String :=
  let cs := s.toList
  let mark := quoteMark cs
  String.ofList (mark :: cs.flatMap (escapeChar visible mark) ++ [mark])

/-- Quoted text; characters that cannot be seen are escaped. -/
def quoted (s : String) : String := quoteWith isPrintable s

/-- Text in which escapes stand for all characters beyond ASCII. -/
def asciiOnly (s : String) : String :=
  String.ofList (s.toList.flatMap fun c =>
    if c.toNat < 128 then [c] else numericEscape (shownNumber c))

/-- Text in which escapes stand for what has no bytes. -/
def withEscapedHalves (s : String) : String :=
  String.ofList (s.toList.flatMap fun c =>
    match half? c with
    | some n => numericEscape n
    | none => [c])

/-- What is said about a text that has no bytes: which of its halves are the first without any. -/
def encodingDefect? (hasBytes : Nat → Bool) (s : String) : Option String :=
  (firstHalves hasBytes 0 s.toList).map fun (position, halves) =>
    let place :=
      match halves with
      | [n] => s!"character '{String.ofList (numericEscape n)}' in position {position}"
      | _ => s!"characters in position {position}-{position + halves.length - 1}"
    s!"'utf-8' codec can't encode {place}: surrogates not allowed"

end BuildBench.Text
