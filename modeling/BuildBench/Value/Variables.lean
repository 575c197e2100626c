import BuildBench.Value.Basic

/-!
# Variables

Variables have a name and a text each, in the order in which they were first set. What a process is
handed may hold names and values of other types as well: they are passed on as they were given.
-/

namespace BuildBench

/-- Variables by name. -/
abbrev Variables := List (String × String)

/-- Sets a variable; one that is there keeps its place. -/
def insertVariable (name value : String) : Variables → Variables
  | [] => [(name, value)]
  | (k, v) :: rest =>
    if k = name then (name, value) :: rest else (k, v) :: insertVariable name value rest

/-- What a process is handed, by name. -/
abbrev Environment := List (Value × Value)

/-- The environment that holds some variables. -/
def Environment.ofVariables (vars : Variables) : Environment :=
  vars.map fun (name, value) => (.text name, .text value)

/-- Variables as a value. -/
def variablesValue (vars : Variables) : Value := .map (Environment.ofVariables vars)

end BuildBench
