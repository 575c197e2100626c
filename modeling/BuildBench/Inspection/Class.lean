/-!
# Classes

Every object belongs to a class. A class holds operations, knows the classes above it, and describes
itself; what it does not hold itself is looked for in the classes above.
-/

namespace BuildBench.Inspection

/-- What an entry of a class is. -/
inductive OperationKind where
  /-- A method of the objects of the class. -/
  | method
  /-- An operation with a notation of its own, such as addition. -/
  | slot
  /-- A method of the class itself. -/
  | classMethod
  /-- A function that belongs to the class only by name. -/
  | function
  /-- What makes objects of the class. -/
  | maker
  /-- An attribute that is computed when it is asked for. -/
  | computed
  /-- An attribute that is stored in the object. -/
  | stored
  /-- An operation that the classes above have and this one does not. -/
  | absent
  deriving Repr, DecidableEq

/-- An entry of a class: its name, what it is, what it says about itself, and how it is called. -/
structure Operation where
  name : String
  kind : OperationKind
  doc : Option String
  signature : Option String
  deriving Repr, DecidableEq

/-- How objects of a class are laid out in memory. -/
structure Sizes where
  basic : Nat
  item : Nat
  flags : Nat
  weakReferences : Nat
  dictionary : Int
  deriving Repr, DecidableEq

structure ClassInfo where
  name : String
  /-- The names of the classes above, the nearest one first. -/
  above : List String
  doc : Option String := none
  signature : Option String := none
  sizes : Sizes
  operations : List Operation

/-- Whether an attribute has its value from the object, whatever else bears its name. -/
def Operation.isAttribute (op : Operation) : Bool := op.kind = .computed || op.kind = .stored

end BuildBench.Inspection
