import BuildBench.Files.Name
import BuildBench.Files.PathName

/-!
# Home directories

A path name may begin with a tilde, alone for the home of the present user or with the name of
another user. Replacing it never leaves a tilde in front: a user without a home is a fault.
-/

namespace BuildBench

/-- The home directories that are known: that of the present user, which a variable may override,
and those of users by name. -/
structure Homes where
  own : String
  named : List (String × String) := []
  deriving Repr, DecidableEq

namespace Homes

/-- The home that a first component beginning with a tilde stands for. A home that begins with a
tilde itself is none. -/
def find? (homes : Homes) (user : String) : Option String :=
  let home := if user.isEmpty then some homes.own else homes.named.lookup user
  home.bind fun h =>
    let bare := String.ofList (Text.dropEndWhile (· == '/') h.toList)
    let shown := if bare.isEmpty then "/" else bare
    if Text.beginsWith "~" shown then none else some shown

/-- The home of a user as a path name. The name of the user has to be one. -/
def ofUser (homes : Homes) (user : String) : Except Fault PathName :=
  match nameFault? user with
  | some f => .error f
  | none =>
    match homes.find? user with
    | some home => .ok (.parse home)
    | none => .error .noHome

/-- A path name in which a leading tilde is replaced by the home it stands for. -/
def replaceTilde (homes : Homes) (p : PathName) : Except Fault PathName :=
  match p.anchor, p.parts with
  | .current, first :: rest =>
    match first.toList with
    | '~' :: user => do
      let home ← homes.ofUser (String.ofList user)
      return ⟨home.anchor, home.parts ++ rest⟩
    | _ => .ok p
  | _, _ => .ok p

end Homes

end BuildBench
