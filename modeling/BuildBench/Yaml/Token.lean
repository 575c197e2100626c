import BuildBench.Yaml.ScalarText
import BuildBench.Text.Utf8

/-!
# Tokens

A document is a sequence of tokens. Indentation opens and closes block collections; a word that
turns out to be followed by a colon is marked as a key afterwards, so a scanner remembers, for every
level of brackets, where the last word that may be a key stands.

A scanner goes on only as far as the next token needs: a word that may still turn out to be a key is
not given out before that is settled.
-/

namespace BuildBench.Yaml

open BuildBench.Yaml.Cursor

inductive Token where
  | version (major : Nat)
  | tagHandle (handle start : String)
  | otherDirective
  | documentStart
  | documentEnd
  | blockSequence
  | blockMapping
  | blockEnd
  | flowSequence
  | flowMapping
  | flowSequenceEnd
  | flowMappingEnd
  | blockEntry
  | flowEntry
  | key
  | value
  | alias (name : String)
  | anchor (name : String)
  | tag (handle : Option String) (suffix : String)
  | scalar (text : String) (plain : Bool)
  deriving Repr, DecidableEq

/-- A word that may be a key: the number of tokens before it, whether it has to be one, and where it
stands. -/
structure PossibleKey where
  position : Nat
  required : Bool
  index : Nat
  line : Nat
  column : Nat

structure Scanner where
  cursor : Cursor
  /-- How many tokens were given out. -/
  taken : Nat := 0
  /-- The tokens that were read and not given out yet. -/
  pending : List Token := []
  /-- Whether the end of the document was read. -/
  ended : Bool := false
  flowLevel : Nat := 0
  indent : Int := -1
  outerIndents : List Int := []
  allowsKey : Bool := true
  /-- Possible keys by the level of brackets they stand in. -/
  possibleKeys : List (Nat × PossibleKey) := []

/-! ## Names, tags and directives -/

def isWordChar (ch : Char) : Bool := ch.isAlphanum || ch == '-' || ch == '_'

/-- The name of an anchor or of an alias, behind its mark. -/
def anchorName (c : Cursor) : Except Defect (String × Cursor) :=
  let (name, c) := c.step.span isWordChar
  let ends := isBlankOrEnd c.peek || "?:,]%@".toList.contains c.peek ||
    c.peek.toNat = 0x7d || c.peek.toNat = 0x60
  if name.isEmpty || !ends then malformed else .ok (String.ofList name, c)

def isUriChar (ch : Char) : Bool :=
  ch.isAlphanum || "-;/?:@&=+$,_.!~*'()[]%".toList.contains ch

/-- Two hexadecimal digits at the beginning of some characters. -/
def escapedByte? : List Char → Option UInt8
  | high :: low :: _ => do
    let h ← Json.hexValue? high
    let l ← Json.hexValue? low
    return UInt8.ofNat (16 * h + l)
  | _ => none

/-- The bytes that a row of percent escapes writes. -/
def escapedBytes : Nat → List UInt8 → Cursor → Except Defect (List UInt8 × Cursor)
  | 0, done, c => .ok (done, c)
  | fuel + 1, done, c =>
    if c.peek == '%' then
      match escapedByte? c.step.rest with
      | some b => escapedBytes fuel (done ++ [b]) (c.advance 3)
      | none => malformed
    else .ok (done, c)

/-- The characters of a tag; percent escapes write bytes of a text. -/
def tagUri : Nat → List Char → Cursor → Except Defect (List Char × Cursor)
  | 0, done, c => .ok (done, c)
  | fuel + 1, done, c => do
    if c.peek == '%' then
      let (bytes, c) ← escapedBytes c.rest.length [] c
      match Text.decode ⟨bytes.toArray⟩ with
      | .ok s => tagUri fuel (done ++ s.toList) c
      | .error _ => malformed
    else if isUriChar c.peek then tagUri fuel (done ++ [c.peek]) c.step
    else return (done, c)

def nonEmptyUri (c : Cursor) : Except Defect (String × Cursor) := do
  let (uri, after) ← tagUri (c.rest.length + 1) [] c
  if after.index = c.index then malformed else return (String.ofList uri, after)

/-- The handle of a tag: an exclamation mark, or a word between two of them. -/
def tagHandle (c : Cursor) : Except Defect (String × Cursor) :=
  if c.peek != '!' then malformed
  else if c.peek 1 == ' ' then .ok ("!", c.step)
  else
    let (word, after) := c.step.span isWordChar
    if after.peek != '!' then malformed
    else .ok ("!" ++ String.ofList word ++ "!", after.step)

def tagToken (c : Cursor) : Except Defect (Token × Cursor) := do
  let (token, c) ←
    if c.peek 1 == '<' then do
      let (uri, c) ← nonEmptyUri (c.advance 2)
      if c.peek == '>' then pure (Token.tag none uri, c.step) else malformed
    else if isBlankOrEnd (c.peek 1) then pure (Token.tag none "!", c.step)
    else do
      let word := (c.rest.drop 1).takeWhile (!isSpaceOrEnd ·)
      let (handle, c) ← if word.contains '!' then tagHandle c else pure ("!", c.step)
      let (uri, c) ← nonEmptyUri c
      pure (Token.tag (some handle) uri, c)
  if isSpaceOrEnd c.peek then return (token, c) else malformed

/-- A number in the version of a document. -/
def versionNumber (c : Cursor) : Except Defect (Nat × Cursor) :=
  let (digits, c) := c.span Char.isDigit
  if digits.isEmpty then malformed
  else if Decimal.mostDigits < digits.length then .error (.tooManyDigits digits.length)
  else .ok (Decimal.ofDigits digits, c)

def directiveToken (c : Cursor) : Except Defect (Token × Cursor) := do
  let (name, c) := c.step.span isWordChar
  if name.isEmpty || !isSpaceOrEnd c.peek then malformed
  else
    let (token, c) ←
      if name == "YAML".toList then do
        let (major, c) ← versionNumber c.skipSpaces
        if c.peek != '.' then malformed
        else
          let (_, c) ← versionNumber c.step
          if isSpaceOrEnd c.peek then pure (Token.version major, c) else malformed
      else if name == "TAG".toList then do
        let (handle, c) ← tagHandle c.skipSpaces
        if c.peek != ' ' then malformed
        else
          let (start, c) ← nonEmptyUri c.skipSpaces
          if isSpaceOrEnd c.peek then pure (Token.tagHandle handle start, c) else malformed
      else pure (Token.otherDirective, c.skip (!isBreakOrEnd ·))
    let c ← ignoredLine c
    return (token, c)

namespace Scanner

/-! ## Indentation and keys -/

def inFlow (s : Scanner) : Bool := s.flowLevel != 0

def push (s : Scanner) (token : Token) : Scanner := { s with pending := s.pending ++ [token] }

/-- Gives the next token out. -/
def take (s : Scanner) : Scanner := { s with taken := s.taken + 1, pending := s.pending.drop 1 }

/-- Closes the block collections that are indented further than `column`. -/
def closeBlocks (s : Scanner) (column : Int) : Scanner :=
  if s.inFlow then s
  else
    let rec close (s : Scanner) : List Int → Scanner
      | [] => s
      | outer :: rest =>
        if column < s.indent then
          close { s.push .blockEnd with indent := outer, outerIndents := rest } rest
        else s
    close s s.outerIndents

/-- Whether a block collection at `column` is a new one, and the scanner inside it. -/
def openBlock (s : Scanner) (column : Nat) : Bool × Scanner :=
  if s.indent < column then
    (true, { s with indent := column, outerIndents := s.indent :: s.outerIndents })
  else (false, s)

def possibleKey? (s : Scanner) : Option PossibleKey :=
  (s.possibleKeys.find? (·.1 == s.flowLevel)).map (·.2)

def dropPossibleKey (s : Scanner) : Scanner :=
  { s with possibleKeys := s.possibleKeys.filter (·.1 != s.flowLevel) }

/-- Gives up the possible key of this level, which must not have been a required one. -/
def removePossibleKey (s : Scanner) : Except Defect Scanner :=
  if s.possibleKey?.any (·.required) then malformed else .ok s.dropPossibleKey

/-- Gives up the possible keys that are too far back: a key stands on one line and has at most 1024
characters. -/
def removeStaleKeys (s : Scanner) : Except Defect Scanner :=
  let isStale (k : PossibleKey) : Bool :=
    k.line != s.cursor.line || 1024 < s.cursor.index - k.index
  if s.possibleKeys.any fun (_, k) => isStale k && k.required then malformed
  else .ok { s with possibleKeys := s.possibleKeys.filter fun (_, k) => !isStale k }

/-- Remembers that the next token may be a key. -/
def savePossibleKey (s : Scanner) : Except Defect Scanner := do
  if s.allowsKey then
    let s ← s.removePossibleKey
    let k : PossibleKey :=
      { position := s.taken + s.pending.length
        required := !s.inFlow && s.indent == (s.cursor.column : Int)
        index := s.cursor.index
        line := s.cursor.line
        column := s.cursor.column }
    return { s with possibleKeys := (s.flowLevel, k) :: s.possibleKeys }
  else return s

/-- Puts a token in front of the one at some position. -/
def insertAt (s : Scanner) (position : Nat) (token : Token) : Scanner :=
  { s with pending := s.pending.insertIdx (position - s.taken) token }

/-! ## One token -/

/-- Skips blanks, comments and line ends. A new line may begin with a key. -/
def skipToToken : Nat → Scanner → Scanner
  | 0, s => s
  | fuel + 1, s =>
    let c := s.cursor.skipSpaces
    let c := if c.peek == '#' then c.skip (!isBreakOrEnd ·) else c
    if isBreak c.peek then
      skipToToken fuel
        { s with cursor := c.lineBreak.2, allowsKey := s.allowsKey || !s.inFlow }
    else { s with cursor := c }

/-- A token outside of all collections, which `step` reads. -/
def topToken (s : Scanner) (token : Token) (c : Cursor) : Except Defect Scanner := do
  let s ← (s.closeBlocks (-1)).removePossibleKey
  return { s.push token with allowsKey := false, cursor := c }

def openFlow (s : Scanner) (token : Token) : Except Defect Scanner := do
  let s ← s.savePossibleKey
  return { s.push token with
    flowLevel := s.flowLevel + 1, allowsKey := true, cursor := s.cursor.step }

def closeFlow (s : Scanner) (token : Token) : Except Defect Scanner := do
  let s ← s.removePossibleKey
  return { s.push token with
    flowLevel := s.flowLevel - 1, allowsKey := false, cursor := s.cursor.step }

def flowEntry (s : Scanner) : Except Defect Scanner := do
  let s ← s.removePossibleKey
  return { s.push .flowEntry with allowsKey := true, cursor := s.cursor.step }

/-- A mark that begins an entry or a key of a block collection, which it may open. -/
def blockMark (s : Scanner) (collection mark : Token) (allowsKey : Bool) :
    Except Defect Scanner := do
  let s ←
    if s.inFlow then pure s
    else if !s.allowsKey then malformed
    else
      let (isNew, s) := s.openBlock s.cursor.column
      pure (if isNew then s.push collection else s)
  let s ← s.removePossibleKey
  return { s.push mark with allowsKey := allowsKey, cursor := s.cursor.step }

/-- A colon: it makes the possible key of this level a key, or begins a value without a key. -/
def valueMark (s : Scanner) : Except Defect Scanner :=
  match s.possibleKey? with
  | some k =>
    let s := s.dropPossibleKey.insertAt k.position .key
    let s :=
      if s.inFlow then s
      else
        let (isNew, s) := s.openBlock k.column
        if isNew then s.insertAt k.position .blockMapping else s
    .ok { s.push .value with allowsKey := false, cursor := s.cursor.step }
  | none => s.blockMark .blockMapping .value (!s.inFlow)

/-- A token that may be a key. -/
def word (s : Scanner) (read : Cursor → Except Defect (Token × Cursor)) :
    Except Defect Scanner := do
  let s ← s.savePossibleKey
  let (token, c) ← read s.cursor
  return { s.push token with allowsKey := false, cursor := c }

def quotedScalar (s : Scanner) (mark : Char) : Except Defect Scanner :=
  s.word fun c => do
    let (text, c) ← quotedText mark (c.rest.length + 1) [] c.step
    return (.scalar (String.ofList text) false, c)

def blockScalar (s : Scanner) (isFolded : Bool) : Except Defect Scanner := do
  let s ← s.removePossibleKey
  let (text, c) ← blockText isFolded s.indent s.cursor.step
  return { s.push (.scalar (String.ofList text) false) with allowsKey := true, cursor := c }

def plainScalar (s : Scanner) : Except Defect Scanner := do
  let s ← s.savePossibleKey
  let (text, c, ended) :=
    plainText s.inFlow (s.indent + 1) (s.cursor.rest.length + 1) [] [] false s.cursor
  return { s.push (.scalar (String.ofList text) true) with allowsKey := ended, cursor := c }

/-- Characters that begin something other than a plain scalar. -/
def isIndicator (ch : Char) : Bool :=
  isBlankOrEnd ch || "-?:,[]#&*!|>\"%@'".toList.contains ch ||
    ch.toNat = 0x7b || ch.toNat = 0x7d || ch.toNat = 0x60

/-- Whether a plain scalar begins here. -/
def atPlain (s : Scanner) : Bool :=
  let ch := s.cursor.peek
  !isIndicator ch ||
    (!isBlankOrEnd (s.cursor.peek 1) && (ch == '-' || (!s.inFlow && (ch == '?' || ch == ':'))))

/-- Reads the token at the cursor, which is not at the end. -/
def token (s : Scanner) : Except Defect Scanner := do
  let c := s.cursor
  let ch := c.peek
  let blankFollows := isBlankOrEnd (c.peek 1)
  if ch == '%' && c.column = 0 then
    let s ← (s.closeBlocks (-1)).removePossibleKey
    let (directive, c) ← directiveToken s.cursor
    return { s.push directive with allowsKey := false, cursor := c }
  else if c.column = 0 && c.marks '-' then s.topToken .documentStart (c.advance 3)
  else if c.column = 0 && c.marks '.' then s.topToken .documentEnd (c.advance 3)
  else if ch == '[' then s.openFlow .flowSequence
  else if ch.toNat = 0x7b then s.openFlow .flowMapping
  else if ch == ']' then s.closeFlow .flowSequenceEnd
  else if ch.toNat = 0x7d then s.closeFlow .flowMappingEnd
  else if ch == ',' then s.flowEntry
  else if ch == '-' && blankFollows then s.blockMark .blockSequence .blockEntry true
  else if ch == '?' && (s.inFlow || blankFollows) then s.blockMark .blockMapping .key (!s.inFlow)
  else if ch == ':' && (s.inFlow || blankFollows) then s.valueMark
  else if ch == '*' then
    s.word fun c => (anchorName c).map fun (name, c) => (.alias name, c)
  else if ch == '&' then
    s.word fun c => (anchorName c).map fun (name, c) => (.anchor name, c)
  else if ch == '!' then s.word tagToken
  else if (ch == '|' || ch == '>') && !s.inFlow then s.blockScalar (ch == '>')
  else if ch == '"' || ch.toNat = 39 then s.quotedScalar ch
  else if s.atPlain then s.plainScalar
  else malformed

/-- Goes on to the next token, or to the end of the document. -/
def fetch (s : Scanner) : Except Defect Scanner := do
  let s ← (skipToToken (s.cursor.rest.length + 1) s).removeStaleKeys
  let s := s.closeBlocks s.cursor.column
  if s.cursor.peek == atEnd then
    let s ← (s.closeBlocks (-1)).removePossibleKey
    return { s with ended := true, possibleKeys := [] }
  else s.token

/-- Whether the next token is not known yet: there is none, or a key may still begin in front of it.
-/
def needsMore (s : Scanner) : Except Defect (Bool × Scanner) := do
  if s.ended then return (false, s)
  else if s.pending.isEmpty then return (true, s)
  else
    let s ← s.removeStaleKeys
    return (s.possibleKeys.any (·.2.position == s.taken), s)

/-- Goes on until the next token is known. Every step but the last uses up a character, so `fuel`
characters are read. -/
def prepare : Nat → Scanner → Except Defect Scanner
  | 0, s => .ok s
  | fuel + 1, s => do
    let (more, s) ← s.needsMore
    if more then prepare fuel (← s.fetch) else return s

/-- A scanner in front of a document. A mark that only tells the order of bytes may stand there. -/
def start (document : List Char) : Scanner :=
  let c : Cursor := { rest := document }
  { cursor := if c.peek.toNat = 0xFEFF then c.step else c }

end Scanner

end BuildBench.Yaml
