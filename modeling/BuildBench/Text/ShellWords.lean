import BuildBench.Fault

/-!
# Shell words

A command line is split into words at spaces, tabs and line ends. Apostrophes quote everything
between them; between double quotes a backslash still quotes a double quote or another backslash;
elsewhere it quotes any character. `quoteWord` writes a word so that splitting gives it back.
-/

namespace BuildBench.Text

def isWordSeparator (c : Char) : Bool :=
  c == ' ' || c == '\t' || c == '\r' || c == '\n'

/-- Where in a command line the reader is: between quotation marks or not, and whether the last
character was a backslash that quotes the next one. -/
inductive WordMode where
  | plain
  | quoted (mark : Char)
  | escaped (mark : Option Char)
  deriving DecidableEq

/-- Adds a character to the word being read, which it starts if there is none. The characters of
the word stand last first. -/
def extendWord (word : Option (List Char)) (c : Char) : Option (List Char) :=
  some (c :: word.getD [])

/-- The finished word, if one was started. -/
def finishWord (word : Option (List Char)) : List String :=
  match word with
  | some cs => [String.ofList cs.reverse]
  | none => []

/-- Reads words from `word`, the one begun, on. -/
def wordsFrom (mode : WordMode) (word : Option (List Char)) :
    List Char → Except String (List String)
  | [] =>
    match mode with
    | .plain => .ok (finishWord word)
    | .quoted _ => .error "No closing quotation"
    | .escaped _ => .error "No escaped character"
  | c :: rest =>
    match mode with
    | .plain =>
      if isWordSeparator c then
        (wordsFrom .plain none rest).map (finishWord word ++ ·)
      else if c == apostrophe || c == doubleQuote then
        wordsFrom (.quoted c) (some (word.getD [])) rest
      else if c == '\\' then wordsFrom (.escaped none) word rest
      else wordsFrom .plain (extendWord word c) rest
    | .quoted mark =>
      if c == mark then wordsFrom .plain word rest
      else if c == '\\' && mark == doubleQuote then wordsFrom (.escaped (some mark)) word rest
      else wordsFrom (.quoted mark) (extendWord word c) rest
    | .escaped none => wordsFrom .plain (extendWord word c) rest
    | .escaped (some mark) =>
      let word := if c == mark || c == '\\' then word else extendWord word '\\'
      wordsFrom (.quoted mark) (extendWord word c) rest

/-- The words of a command line. -/
def splitWords (s : String) : Except Fault (List String) :=
  (wordsFrom .plain none s.toList).mapError .invalid

/-- Characters that mean themselves to a shell. -/
def isShellSafe (c : Char) : Bool :=
  c.isAlphanum || "_@%+=:,./-".toList.contains c

/-- A word written so that a shell reads it as one word: as it is if every character is safe,
otherwise between apostrophes, an apostrophe itself between double quotes. -/
def quoteWord (s : String) : String :=
  let cs := s.toList
  if cs.isEmpty then "''"
  else if cs.all isShellSafe then s
  else
    let inner := cs.flatMap fun c =>
      if c == apostrophe then [apostrophe, doubleQuote, apostrophe, doubleQuote, apostrophe]
      else [c]
    String.ofList (apostrophe :: inner ++ [apostrophe])

/-- A command line whose words are the given ones. -/
def joinWords (words : List String) : String := " ".intercalate (words.map quoteWord)

end BuildBench.Text
