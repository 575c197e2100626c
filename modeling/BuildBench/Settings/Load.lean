import BuildBench.World.Disk
import BuildBench.Settings.Profile
import BuildBench.Yaml.Document

/-!
# Reading profiles

A profile is a YAML document that holds a map. An empty document is an empty profile.
-/

namespace BuildBench.Profile

open BuildBench.Action

/-- The value of a YAML document at some path. -/
def documentValue (path : PathName) (text : String) : Except Fault Value :=
  match Yaml.load text with
  | .ok v => .ok v
  | .error .malformed => .error (.invalid
      ("Invalid YAML in profile " ++ path.display ++ ": the document is malformed"))
  | .error (.fault f) => .error f

/-- Reads a profile from a file. -/
def load (path : PathName) : Action Profile := do
  unless ← Disk.exists? path do throw (.noProfile path.display)
  let text ← Disk.readText path
  let document ← ofResult (documentValue path text)
  record ⟨.debug, programName, "Loaded profile " ++ path.display⟩
  match document.bare with
  | .null => return []
  | .map entries => return entries
  | v => throw (.invalid ("Profile must be a YAML mapping, got " ++ v.typeName))

end BuildBench.Profile
