import BuildBench.Value.Basic

/-!
# Writing JSON

A value is written over several lines, each level two blanks further in. Only ASCII is written;
characters beyond the basic plane become a pair of escapes.
-/

namespace BuildBench.Json

def unitEscape (n : Nat) : List Char := '\\' :: 'u' :: Text.hexDigits 4 n

def escapeChar (c : Char) : List Char :=
  if c == '"' || c == '\\' then ['\\', c]
  else if c == '\n' then ['\\', 'n']
  else if c == '\r' then ['\\', 'r']
  else if c == '\t' then ['\\', 't']
  else if c.toNat = 8 then ['\\', 'b']
  else if c.toNat = 12 then ['\\', 'f']
  else if 32 ≤ c.toNat && c.toNat < 127 then [c]
  else if c.toNat < 0x10000 then unitEscape c.toNat
  else
    match Text.half? c with
    | some half => unitEscape half
    | none =>
      let n := c.toNat - 0x10000
      unitEscape (0xD800 + n / 0x400) ++ unitEscape (0xDC00 + n % 0x400)

def writeString (s : String) : String :=
  String.ofList ('"' :: s.toList.flatMap escapeChar ++ ['"'])

def writeFloat (x : Float) : String :=
  match Decimal.Binary.ofFloat x with
  | .notANumber => "NaN"
  | .infinite negative => if negative then "-Infinity" else "Infinity"
  | .finite _ _ _ => Decimal.shortest x

/-- The start of a line at some level. -/
def newLine (level : Nat) : String :=
  "\n" ++ String.ofList (List.replicate (2 * level) ' ')

/-- Written parts between brackets, one on each line. -/
def block (opening closing : String) (level : Nat) (parts : List String) : String :=
  if parts.isEmpty then opening ++ closing
  else
    opening ++ newLine (level + 1) ++ ("," ++ newLine (level + 1)).intercalate parts ++
      newLine level ++ closing

mutual

/-- The text of a value that begins at `level`. Values that JSON does not know are written as their
text. -/
def write (level : Nat) : Value → String
  | .null => "null"
  | .bool b => if b then "true" else "false"
  | .int i => intText i
  | .float x => writeFloat x
  | .text s => writeString s
  | .list items => block "[" "]" level (writeItems (level + 1) items)
  | .map entries => block "\x7b" "\x7d" level (writeMembers (level + 1) entries)
  | v => writeString v.display

def writeItems (level : Nat) : List Value → List String
  | [] => []
  | v :: rest => write level v :: writeItems level rest

def writeMembers (level : Nat) : List (Value × Value) → List String
  | [] => []
  | (k, v) :: rest => (writeString k.display ++ ": " ++ write level v) :: writeMembers level rest

end

/-- The text of a whole document. -/
def document (v : Value) : String := write 0 v

/-- A map with text keys. -/
def object (members : List (String × Value)) : Value :=
  .map (members.map fun (name, value) => (.text name, value))

end BuildBench.Json
