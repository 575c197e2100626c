import BuildBench.CommandLine.Option
import BuildBench.Text.Lines

/-!
# Usage and help

How a command is used, in one line and in a page.
-/

namespace BuildBench.CommandLine

namespace CommandSpec

/-- The line that shows how a command is used. -/
def usage (c : CommandSpec) : String :=
  "Usage: " ++ " ".intercalate (c.path ++ ["[OPTIONS]"] ++ c.arguments.map (·.name))

/-- Where help is to be found. -/
def hint (c : CommandSpec) : String :=
  "Try '" ++ c.pathText ++ " " ++ helpOption.name ++ "' for help."

end CommandSpec

/-- How the value of an option is named. -/
def ValueKind.placeholder : ValueKind → String
  | .flag => ""
  | .text => " TEXT"
  | .number => " INTEGER"
  | .choice names => " [" ++ "|".intercalate names ++ "]"
  | .existingFile => " FILE"
  | .folder => " DIRECTORY"
  | .path => " PATH"

/-- Pairs of a term and what is said about it, in two columns. -/
def columns (rows : List (String × String)) : String :=
  let width := rows.foldl (fun widest (term, _) => max widest term.length) 0
  "\n".intercalate (rows.map fun (term, about) => "  " ++ Text.padEnd width term ++ "  " ++ about)

def OptionSpec.row (o : OptionSpec) : String × String :=
  (", ".intercalate o.spellings ++ o.kind.placeholder, o.about)

/-- The page about a command. -/
def CommandSpec.page (c : CommandSpec) : String :=
  c.usage ++ "\n\n  " ++ c.about ++ "\n\nOptions:\n" ++ columns (c.allOptions.map OptionSpec.row) ++
    "\n"

end BuildBench.CommandLine
