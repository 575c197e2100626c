import BuildBench.World.Disk
import BuildBench.Decimal.Numeral
import BuildBench.CommandLine.Words

/-!
# What a command is given

The words of a command line become values. Options are read in the order in which they are used,
then the arguments, then the options that were not used; the first value that is not acceptable
refuses the line.
-/

namespace BuildBench.CommandLine

/-- An action of a command line, which may refuse the line. -/
abbrev Guarded := ExceptT Refusal Action

/-- A path that has to be a file. -/
def existingFile (place word : String) : Guarded Value := do
  match ← Disk.find? word with
  | some (.folder _) =>
    throw (.badValue place ("File " ++ Text.quoted word ++ " is a directory."))
  | some _ => return .text word
  | none => throw (.badValue place ("File " ++ Text.quoted word ++ " does not exist."))

/-- A path that may not be a file. -/
def folder (place word : String) : Guarded Value := do
  match ← Disk.find? word with
  | some (.file _ _) =>
    throw (.badValue place ("Directory " ++ Text.quoted word ++ " is a file."))
  | _ => return .text word

/-- The value that a word stands for. -/
def valueOf (place : String) (kind : ValueKind) (word : String) : Guarded Value := do
  match kind with
  | .flag => return .bool true
  | .text => return .text word
  | .path =>
    let _ ← Disk.find? word
    return .text word
  | .number =>
    match Decimal.parseInt? word with
    | some i => return .int i
    | none => throw (.badValue place (Text.quoted word ++ " is not a valid integer."))
  | .choice names =>
    if names.contains word then return .text word
    else
      throw (.badValue place
        (Text.quoted word ++ " is not one of " ++ ", ".intercalate (names.map Text.quoted) ++ "."))
  | .existingFile => existingFile place word
  | .folder => folder place word

/-- Values by the names of options and arguments. -/
structure Given where
  values : List (String × Value)

namespace Given

/-- The value under a name; null when there is none. -/
def value (g : Given) (name : String) : Value := (g.values.lookup name).getD .null

def text? (g : Given) (name : String) : Option String :=
  match g.value name with
  | .text s => some s
  | _ => none

def path? (g : Given) (name : String) : Option PathName := (g.text? name).map PathName.parse

def flag (g : Given) (name : String) : Bool := (g.value name).isPresent

end Given

/-- The word behind the last use of an option. -/
def lastWord? (uses : List Use) (o : OptionSpec) : Option String :=
  (uses.filter (·.option = o)).getLast?.bind (·.value)

/-- The word for an option that takes a value: from the line, else from a variable that is not
empty, else the default. -/
def wordFor (uses : List Use) (o : OptionSpec) : Action (Option String) := do
  let env := (← get).environment
  let inherited := (o.variableName.bind fun name => env.lookup name).filter (!·.isEmpty)
  return lastWord? uses o <|> inherited <|> o.default

/-- Reads one option. -/
def readOption (uses : List Use) (o : OptionSpec) : Guarded (String × Value) := do
  if !o.takesValue then return (o.name, .bool (uses.any (·.option = o)))
  else
    match ← wordFor uses o with
    | some word => return (o.name, ← valueOf o.place o.kind word)
    | none => if o.required then throw (.optionMissing o.place) else return (o.name, .null)

/-- Reads the arguments. What no argument is left for is given back. -/
def readArguments : List ArgumentSpec → List String → Guarded (List (String × Value) × List String)
  | [], words => return ([], words)
  | a :: _, [] => throw (.argumentMissing a.place)
  | a :: rest, word :: words => do
    let v ← valueOf a.place a.kind word
    let (values, left) ← readArguments rest words
    return ((a.name, v) :: values, left)

/-- Reads everything that a command is given. -/
def CommandSpec.read (c : CommandSpec) (s : Separated) : Guarded Given := do
  let used := (s.uses.map (·.option)).eraseDups
  let first ← used.mapM (readOption s.uses)
  let (arguments, left) ← readArguments c.arguments s.arguments
  let others ← (c.options.filter (!used.contains ·)).mapM (readOption s.uses)
  unless left.isEmpty do throw (.surplus left)
  return ⟨first ++ arguments ++ others⟩

end BuildBench.CommandLine
