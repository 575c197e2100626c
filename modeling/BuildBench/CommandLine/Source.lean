import BuildBench.CommandLine.Given
import BuildBench.Settings.Load

/-!
# Settings and events of a command line

Options that several commands share: the profile with the settings, and the event whose trigger is
checked.
-/

namespace BuildBench.CommandLine

def profileOption : OptionSpec where
  spellings := ["--profile"]
  kind := .existingFile
  about := "YAML profile with settings that replace the defaults."

def workdirOption : OptionSpec where
  spellings := ["--workdir"]
  kind := .folder
  about := "Working directory (default: the profile's, or the current one)."

/-- The settings of a profile, or the defaults, with overrides. Settings that are not acceptable
refuse the command line. -/
def settingsOf (profile : Option PathName) (overrides : List Override) : Guarded Settings := do
  let load : Action Settings := do
    let p ← match profile with
      | some path => Profile.load path
      | none => pure []
    Action.ofResult (Settings.ofProfile (← Disk.homes) p overrides)
  match ← (Action.attempt load : Action _) with
  | .ok s => return s
  | .error f =>
    if f.isInvalidValue then throw (.badValue "--profile" f.message) else (throw f : Action _)

/-- An event in a repository, as far as it is known. -/
structure TriggerEvent where
  name : Option String
  branch : Option String
  base : Option String
  deriving Repr, DecidableEq

def eventOptions (required : Bool) : List OptionSpec := [
  { spellings := ["--event"], kind := .text, variableName := some "GITHUB_EVENT_NAME"
    required := required, about := "The event that took place." },
  { spellings := ["--branch"], kind := .text, variableName := some "GITHUB_REF_NAME"
    about := "The branch that was pushed, or the one to be merged." },
  { spellings := ["--base-branch"], kind := .text, variableName := some "GITHUB_BASE_REF"
    about := "The branch that a pull request targets." }]

namespace TriggerEvent

def ofGiven (g : Given) : TriggerEvent :=
  ⟨g.text? "--event", g.text? "--branch", g.text? "--base-branch"⟩

/-- Whether the event starts a run. An event without a name starts none. -/
def starts (e : TriggerEvent) (t : Triggers) : Bool :=
  match e.name with
  | some name => t.accept name e.branch e.base
  | none => false

/-- Whether a run that was asked for goes on. It does when there is no event to check. -/
def admits (e : TriggerEvent) (t : Triggers) : Bool :=
  (Trigger.given e.name).isNone || e.starts t

/-- The branch as it is shown: the targeted one, if there is one. -/
def branchText (e : TriggerEvent) : String :=
  (Trigger.given e.base <|> e.branch).getD "None"

end TriggerEvent

end BuildBench.CommandLine
