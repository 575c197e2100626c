import BuildBench.Inspection.Subject
import BuildBench.Text.NumberLayout

/-!
# Text templates

A template is text with replacement fields between braces; a doubled brace is a brace. A field
names one of the given values, and may go on with attributes and indices, a conversion after an
exclamation mark and a layout after a colon. A layout may itself contain fields, but those may not
contain further ones.
-/

namespace BuildBench.Text.Template

open BuildBench.Inspection (Subject)

/-- The values that a template can name. -/
abbrev Fields := List (String × Value)

def openBrace : Char := Char.ofNat 0x7b

def closeBrace : Char := Char.ofNat 0x7d

/-- A name that consists of digits only is a position. -/
def position? (cs : List Char) : Except Fault (Option Nat) :=
  if cs.isEmpty || !cs.all (fun c => (digitValue? c).isSome) then .ok none
  else (leadingNumber cs).map fun (n, _, _) => some n

/-! ## Fields -/

/-- A conversion makes a text of an object: quoted, quoted in ASCII, or as it is. -/
def convert (conversion : Option Char) (s : Subject) : Except Fault Subject :=
  match conversion with
  | none => .ok s
  | some 's' => .ok (Inspection.text s.display)
  | some 'r' => .ok (Inspection.text s.quoted)
  | some 'a' => .ok (Inspection.text (asciiOnly s.quoted))
  | some c => fail ("Unknown conversion specifier " ++ shownChar 127 c)

/-- The text of an object in a layout. Only texts and whole numbers can be laid out. -/
def layOutSubject (spec : List Char) (s : Subject) : Except Fault String :=
  if spec.isEmpty then .ok s.display
  else
    match s with
    | .value (.text t) => layOut spec t
    | .value (.int i) => layOutNumber spec "int" i
    | .value (.bool b) => layOutNumber spec "bool" (if b then 1 else 0)
    | _ => .error .wrongType

/-- How unnamed fields have been numbered so far: by themselves, or by the template. -/
inductive Numbering where
  | undecided
  | automatic
  | manual
  deriving DecidableEq

def Numbering.next (numbering : Numbering) (unnamed : Bool) : Except Fault Numbering :=
  match numbering, unnamed with
  | .undecided, true | .automatic, true => .ok .automatic
  | .undecided, false | .manual, false => .ok .manual
  | .manual, true =>
    fail "cannot switch from manual field specification to automatic field numbering"
  | .automatic, false =>
    fail "cannot switch from automatic field numbering to manual field specification"

/-- Follows the parts of a name after its first one. Each step uses up a character, so `fuel`
characters are followed. -/
def follow : Nat → List Char → Subject → Except Fault Subject
  | 0, _, s | _, [], s => .ok s
  | fuel + 1, '.' :: rest, s => do
    let name := rest.takeWhile fun c => c != '.' && c != '['
    if name.isEmpty then fail "Empty attribute in format string"
    else follow fuel (rest.drop name.length) (← s.member (String.ofList name))
  | fuel + 1, '[' :: rest, s => do
    let name := rest.takeWhile (· != ']')
    match rest.drop name.length with
    | [] => fail "Missing ']' in format string"
    | _ :: tail =>
      let index ← position? name
      if name.isEmpty then fail "Empty attribute in format string"
      else
        follow fuel tail (← s.item ((index.map .position).getD (.name (String.ofList name))))
  | _, _, _ => fail "Only '.' or '[' may follow ']' in format field specifier"

/-- The object that a name stands for, and how fields are numbered from then on. Nothing is
given by position. -/
def lookUp (fields : Fields) (numbering : Numbering) (name : List Char) :
    Except Fault (Subject × Numbering) := do
  let first := name.takeWhile fun c => c != '.' && c != '['
  let index ← position? first
  if first.isEmpty || index.isSome then
    let _ ← numbering.next first.isEmpty
    .error .badPosition
  else
    match fields.find? (·.1 == String.ofList first) with
    | some (_, v) =>
      let s ← follow name.length (name.drop first.length) (.value v)
      return (s, numbering)
    | none => .error (.missingKey (.text (String.ofList first)))

/-- The parts of a replacement field: its name, its conversion and its layout. -/
structure Field where
  name : List Char
  conversion : Option Char
  layout : List Char

/-- The name at the beginning of a field, the character that ends it and what follows. Brackets hide
the characters that would end the name. -/
def fieldName (name : List Char) (bracketed : Bool) :
    List Char → Except Fault (List Char × Option Char × List Char)
  | [] => .ok (name.reverse, none, [])
  | c :: rest =>
    if bracketed then fieldName (c :: name) (c != ']') rest
    else if c == openBrace then fail "unexpected '\x7b' in field name"
    else if c == closeBrace || c == ':' || c == '!' then .ok (name.reverse, some c, rest)
    else fieldName (c :: name) (c == '[') rest

/-- The layout at the end of a field, up to the brace that closes the field. -/
def fieldLayout (spec : List Char) (depth : Nat) :
    List Char → Except Fault (List Char × List Char)
  | [] => fail "unmatched '\x7b' in format spec"
  | c :: rest =>
    if c == openBrace then fieldLayout (c :: spec) (depth + 1) rest
    else if c == closeBrace then
      if depth = 0 then .ok (spec.reverse, rest) else fieldLayout (c :: spec) (depth - 1) rest
    else fieldLayout (c :: spec) depth rest

/-- Reads a field whose opening brace was read. -/
def readField (cs : List Char) : Except Fault (Field × List Char) := do
  let (name, stop, rest) ← fieldName [] false cs
  if stop == some closeBrace then return (⟨name, none, []⟩, rest)
  else if stop == some ':' then
    let (layout, rest) ← fieldLayout [] 0 rest
    return (⟨name, none, layout⟩, rest)
  else if stop == some '!' then
    match rest with
    | [] => fail "end of string while looking for conversion specifier"
    | conversion :: rest =>
      match rest with
      | [] => fail "unmatched '\x7b' in format spec"
      | c :: rest =>
        if c == closeBrace then return (⟨name, some conversion, []⟩, rest)
        else if c == ':' then
          let (layout, rest) ← fieldLayout [] 0 rest
          return (⟨name, some conversion, layout⟩, rest)
        else fail "expected ':' after conversion specifier"
  else fail "expected '\x7d' before end of string"

/-- Expands a template of at most `fuel` characters whose fields may nest `depth` deep. `expandSpec`
expands the layouts in it. -/
def expandWith (fields : Fields)
    (expandSpec : Numbering → List Char → Except Fault (String × Numbering)) :
    Nat → Numbering → List Char → Except Fault (String × Numbering)
  | 0, numbering, _ | _, numbering, [] => .ok ("", numbering)
  | fuel + 1, numbering, c :: rest => do
    if c == openBrace || c == closeBrace then
      match rest with
      | d :: more =>
        if c == d then
          let (tail, numbering) ← expandWith fields expandSpec fuel numbering more
          return (String.singleton c ++ tail, numbering)
        else if c == closeBrace then fail "Single '\x7d' encountered in format string"
        else
          let (field, rest) ← readField rest
          let (s, numbering) ← lookUp fields numbering field.name
          let s ← convert field.conversion s
          let (spec, numbering) ←
            if field.layout.contains openBrace then expandSpec numbering field.layout
            else pure (String.ofList field.layout, numbering)
          let s ← layOutSubject spec.toList s
          let (tail, numbering) ← expandWith fields expandSpec fuel numbering rest
          return (s ++ tail, numbering)
      | [] =>
        if c == closeBrace then fail "Single '\x7d' encountered in format string"
        else fail "Single '\x7b' encountered in format string"
    else
      let (tail, numbering) ← expandWith fields expandSpec fuel numbering rest
      return (String.singleton c ++ tail, numbering)

def tooDeep : Numbering → List Char → Except Fault (String × Numbering) :=
  fun _ _ => fail "Max string recursion exceeded"

/-- Fills the fields of a template in. -/
def expand (template : String) (fields : Fields) : Except Fault String := do
  let cs := template.toList
  let inner (numbering : Numbering) (spec : List Char) : Except Fault (String × Numbering) :=
    expandWith fields tooDeep spec.length numbering spec
  let (s, _) ← expandWith fields inner cs.length .undecided cs
  return s

end BuildBench.Text.Template
