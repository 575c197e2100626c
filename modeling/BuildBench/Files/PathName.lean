import BuildBench.Value.Basic
import BuildBench.Text.Pieces

/-!
# Path names

A path name is where it starts and the components after that. Empty components and single dots
mean nothing and are dropped; two dots are kept, because what they mean depends on links.
-/

namespace BuildBench

/-- Where a path name starts: at some current directory, or at the root, written with one slash or
with two. -/
inductive Anchor where
  | current
  | root
  | doubleRoot
  deriving Repr, DecidableEq

def Anchor.text : Anchor → String
  | .current => ""
  | .root => "/"
  | .doubleRoot => "//"

structure PathName where
  anchor : Anchor := .current
  parts : List String
  deriving Repr, DecidableEq

namespace PathName

/-- The components of a text: the pieces between slashes that mean something. -/
def components (s : String) : List String :=
  (Text.splitAt '/' s).filter fun piece => piece != "" && piece != "."

/-- Exactly two slashes at the beginning are not the same as one; three or more are. -/
def parse (s : String) : PathName :=
  let slashes := (s.toList.takeWhile (· == '/')).length
  let anchor : Anchor :=
    if slashes = 0 then .current else if slashes = 2 then .doubleRoot else .root
  ⟨anchor, components s⟩

def isAbsolute (p : PathName) : Bool := p.anchor != .current

/-- The text of a path name. The current directory is a dot. -/
def display (p : PathName) : String :=
  let s := p.anchor.text ++ "/".intercalate p.parts
  if s.isEmpty then "." else s

/-- A path name read from the place that another one names. -/
def join (base p : PathName) : PathName :=
  if p.isAbsolute then p else ⟨base.anchor, base.parts ++ p.parts⟩

/-- The path name of an entry of the directory that `p` names. -/
def child (p : PathName) (name : String) : PathName := ⟨p.anchor, p.parts ++ [name]⟩

/-- The path name without its last component. -/
def parent (p : PathName) : PathName := ⟨p.anchor, p.parts.dropLast⟩

/-- The last component; a root and the current directory have none. -/
def name (p : PathName) : String := p.parts.getLast?.getD ""

/-- The components with the anchor in front, by which path names are ordered. -/
def ordering (p : PathName) : List String :=
  if p.isAbsolute then p.anchor.text :: p.parts else p.parts

/-- Whether `p` comes before `q` or is `q`, compared component by component. -/
def atMost (p q : PathName) : Bool := !decide (q.ordering < p.ordering)

/-- What is left of `p` below `base`, if its components begin with those of `base`. -/
def below? (base p : PathName) : Option (List String) :=
  if base.anchor = p.anchor && base.parts.isPrefixOf p.parts then
    some (p.parts.drop base.parts.length)
  else none

end PathName

end BuildBench
