import BuildBench.Text.Pieces

/-!
# Options and commands

What a command can be given: options by name, and arguments by their place. This is the description
from which command lines are read and usage texts are written.
-/

namespace BuildBench.CommandLine

/-- What the value of an option or an argument has to be. -/
inductive ValueKind where
  /-- No value at all: the option is there or not. -/
  | flag
  | text
  | number
  | choice (names : List String)
  /-- A file that exists. -/
  | existingFile
  /-- A folder, or a place where one can be made. -/
  | folder
  | path
  deriving Repr, DecidableEq

/-- An option: how it may be spelled, and what it takes. Its last spelling is its name. -/
structure OptionSpec where
  spellings : List String
  kind : ValueKind
  /-- The variable that gives the value when the line does not. -/
  variableName : Option String := none
  required : Bool := false
  /-- The value when nothing gives one. -/
  default : Option String := none
  about : String := ""
  deriving Repr, DecidableEq

namespace OptionSpec

def name (o : OptionSpec) : String := o.spellings.getLastD ""

/-- How an option is called in a message about it. -/
def place (o : OptionSpec) : String :=
  " / ".intercalate (o.spellings.map fun s => "'" ++ s ++ "'")

def takesValue (o : OptionSpec) : Bool := o.kind ≠ .flag

end OptionSpec

/-- A spelling with one dash and one letter. -/
def isShort (spelling : String) : Bool := spelling.length = 2

/-- The option with some long or short spelling. -/
def findOption (short : Bool) (spelling : String) (options : List OptionSpec) : Option OptionSpec :=
  options.find? fun o => (o.spellings.filter (isShort · == short)).contains spelling

def longSpellings (options : List OptionSpec) : List String :=
  (options.flatMap (·.spellings)).filter (!isShort ·)

/-- An argument that a command needs. -/
structure ArgumentSpec where
  name : String
  kind : ValueKind
  deriving Repr, DecidableEq

/-- How an argument is called in a message about it. -/
def ArgumentSpec.place (a : ArgumentSpec) : String := "'" ++ a.name ++ "'"

/-- A command: its words, and what it can be given. -/
structure CommandSpec where
  /-- The words that call the command. -/
  path : List String
  about : String
  options : List OptionSpec := []
  arguments : List ArgumentSpec := []
  deriving Repr, DecidableEq

/-- The option that every command has. -/
def helpOption : OptionSpec where
  spellings := ["--help"]
  kind := .flag
  about := "Show this message and exit."

namespace CommandSpec

def allOptions (c : CommandSpec) : List OptionSpec := c.options ++ [helpOption]

def pathText (c : CommandSpec) : String := " ".intercalate c.path

end CommandSpec

end BuildBench.CommandLine
