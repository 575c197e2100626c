import BuildBench.World.Basic
import BuildBench.Settings.Profile

/-!
# Environments

What a process is handed: the variables of the run itself, with layers of others over them, and with
the folder of installed programs in front of the search path.
-/

namespace BuildBench.Environment

/-- Sets a variable; one that is there keeps its place. -/
def set (name : String) (value : Value) (env : Environment) : Environment :=
  insertEntry (.text name) value env

/-- Puts entries over an environment, later ones over earlier ones. -/
def overlaid (env entries : Environment) : Environment :=
  entries.foldl (fun env (name, value) => insertEntry name value env) env

/-- The entries of a layer; values become text, names stay as they are. A layer that does not count
as present has none. -/
def layer (v : Value) : Except Fault Environment :=
  if !v.isPresent then .ok []
  else
    match v.bare with
    | .map entries => entries.mapM fun (k, v) => return (k, .text (← v.textOf))
    | _ => .error .noSuchMember

/-- The variables of the program with layers over them, each over the ones before. -/
def merge (vars : Variables) (layers : List Value) : Except Fault Environment :=
  layers.foldlM (fun env v => (layer v).map env.overlaid) (ofVariables vars)

/-- The search path that an environment holds. -/
def searchPath (env : Environment) : Value := (member? "PATH" env).getD .null

/-- The entries of a search path. One that does not count as present has none. -/
def searchEntries (path : Value) : Except Fault (List String) :=
  if !path.isPresent then .ok []
  else
    match path with
    | .text s => .ok (Text.splitAt ':' s)
    | .bytes _ => .error .wrongType
    | _ => .error .noSuchMember

/-- Puts a folder in front of the search path, unless it is one of its entries already. -/
def withFolder (folder : String) (env : Environment) : Except Fault Environment := do
  let entries ← searchEntries env.searchPath
  if entries.contains folder then return env
  else return env.set "PATH" (.text (":".intercalate (folder :: entries)))

/-- Puts the folder of installed programs in front of the search path. -/
def withPrograms (homes : Homes) (install : InstallSettings) (env : Environment) :
    Except Fault Environment := do
  let folder ← homes.replaceTilde (← pathSetting install.binDir)
  env.withFolder folder.display

end BuildBench.Environment
