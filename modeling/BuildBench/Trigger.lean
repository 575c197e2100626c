import BuildBench.Value.Basic
import BuildBench.Text.Pieces

/-!
# Triggers

An event in a repository starts a run when it is an enabled one and concerns a designated branch: a
push the branch that was pushed, a pull request the branch that it targets. No other event starts a
run.
-/

namespace BuildBench

/-- The branches and events that start a run, as they were configured. -/
structure Triggers where
  branches : List Value := [.text "main"]
  events : List Value := [.text "push", .text "pull_request"]

namespace Trigger

/-- The events that can start a run. -/
inductive Kind where
  | push
  | pullRequest
  deriving Repr, DecidableEq

def Kind.name : Kind → String
  | .push => "push"
  | .pullRequest => "pull_request"

def Kind.ofName? (s : String) : Option Kind := [Kind.push, .pullRequest].find? (·.name == s)

/-- The names of the events that can start a run. -/
def knownEvents : List String := [Kind.push.name, Kind.pullRequest.name]

/-- What may stand in front of the name of a branch. -/
def branchRoots : List String := ["refs/heads/", "refs/remotes/origin/"]

/-- The name of a branch without the root in front of it, of which only one is taken off. -/
def branchName (ref : String) : String :=
  match branchRoots.find? fun root => Text.beginsWith root ref with
  | some root => String.ofList (ref.toList.drop root.length)
  | none => ref

/-- A name that is there and not empty. -/
def given (name : Option String) : Option String := name.filter (!·.isEmpty)

/-- The branch that an event concerns. -/
def target (kind : Kind) (branch base : Option String) : Option String :=
  match kind with
  | .push => given branch
  | .pullRequest => given base <|> given branch

end Trigger

def holdsText (values : List Value) (s : String) : Bool := values.any (·.isText s)

/-- Whether an event starts a run. -/
def Triggers.accept (t : Triggers) (event : String) (branch base : Option String) : Bool :=
  holdsText t.events event &&
    match Trigger.Kind.ofName? event with
    | none => false
    | some kind =>
      match Trigger.target kind branch base with
      | none => false
      | some name => holdsText t.branches (Trigger.branchName name)

end BuildBench
