import BuildBench.Inspection.TextTable
import BuildBench.Inspection.NumberTable
import BuildBench.Inspection.ClassTable
import BuildBench.Fault

/-!
# Asking about objects

A value can be asked for its attributes and for its items, and so can what it answers: its class,
the operations of that class, and what these know about themselves. `member` answers for an
attribute, `item` for an index, and `display` is the text of an answer.
-/

namespace BuildBench.Inspection

def classes : List ClassInfo := [
  textClass, bytesClass, numberClass, truthClass, tupleClass, nothingClass, objectClass, classClass,
  methodClass, slotClass, boundSlotClass, boundMethodClass, computedClass, storedClass,
  classMethodClass, functionClass, membersClass]

/-- What is known about the class of a name. -/
def classNamed (name : String) : ClassInfo :=
  (classes.find? (·.name == name)).getD objectClass

/-- What can be asked. -/
inductive Subject where
  | value (v : Value)
  | tuple (items : List Subject)
  | cls (info : ClassInfo)
  /-- An entry as it is held by a class. -/
  | entry (owner : ClassInfo) (op : Operation)
  /-- An operation of one object. -/
  | bound (self : Subject) (owner : ClassInfo) (op : Operation)
  /-- The view of what a class holds. -/
  | members (info : ClassInfo)
  /-- A class with an argument in brackets. -/
  | specialised (shown : String)

def text (s : String) : Subject := .value (.text s)

def textOrNull (s : Option String) : Subject := .value ((s.map Value.text).getD .null)

def number (n : Int) : Subject := .value (.int n)

namespace Subject

/-- The class of an entry that a class holds. -/
def entryClass (op : Operation) : ClassInfo :=
  match op.kind with
  | .method => methodClass
  | .slot => slotClass
  | .classMethod => classMethodClass
  | .function => functionClass
  | .computed => computedClass
  | .stored => storedClass
  | .maker => boundMethodClass
  | .absent => nothingClass

/-- The class of an object. -/
def classOf : Subject → ClassInfo
  | .value v => classNamed v.typeName
  | .tuple _ => tupleClass
  | .cls _ => classClass
  | .entry _ op => entryClass op
  | .bound _ _ op => if op.kind = .slot then boundSlotClass else boundMethodClass
  | .members _ => membersClass
  | .specialised _ => classNamed "GenericAlias"

/-! ## Texts -/

/-- A place in memory. Where an object is cannot be foretold. -/
def place : String := "0x7f0000000000"

/-- The text of an entry of a class. -/
def entryText (owner : ClassInfo) (op : Operation) : String :=
  let onClass := "<built-in method " ++ op.name ++ " of type object at " ++ place ++ ">"
  let of := " '" ++ op.name ++ "' of '" ++ owner.name ++ "' objects>"
  match op.kind with
  | .method | .classMethod => "<method" ++ of
  | .slot => "<slot wrapper" ++ of
  | .computed => "<attribute" ++ of
  | .stored => "<member" ++ of
  | .function => "<staticmethod(" ++ onClass ++ ")>"
  | .maker => onClass
  | .absent => "None"

def boundText (self : ClassInfo) (op : Operation) : String :=
  if op.kind = .slot then
    "<method-wrapper '" ++ op.name ++ "' of " ++ self.name ++ " object at " ++ place ++ ">"
  else "<built-in method " ++ op.name ++ " of " ++ self.name ++ " object at " ++ place ++ ">"

def tupleText (items : List String) : String :=
  match items with
  | [item] => "(" ++ item ++ ",)"
  | _ => "(" ++ ", ".intercalate items ++ ")"

/-- The text of all entries of a class. -/
def membersText (info : ClassInfo) : String :=
  "\x7b" ++ ", ".intercalate (info.operations.map fun op =>
    Text.quoted op.name ++ ": " ++ entryText info op) ++ "\x7d"

mutual

/-- The text of an object inside another one. -/
def quoted : Subject → String
  | .value v => v.quoted
  | .tuple items => tupleText (quotedAll items)
  | .cls info => "<class '" ++ info.name ++ "'>"
  | .entry owner op => entryText owner op
  | .bound self _ op => boundText (classOf self) op
  | .members info => "mappingproxy(" ++ membersText info ++ ")"
  | .specialised shown => shown

def quotedAll : List Subject → List String
  | [] => []
  | s :: rest => s.quoted :: quotedAll rest

end

/-- The text of an object. -/
def display : Subject → String
  | .value v => v.display
  | .members info => membersText info
  | s => s.quoted

/-! ## Attributes -/

/-- The entry of some name in the first of some classes that has it. -/
def findEntry (name : String) : List ClassInfo → Option (ClassInfo × Operation)
  | [] => none
  | info :: rest =>
    match info.operations.find? (·.name == name) with
    | some op => some (info, op)
    | none => findEntry name rest

/-- A class and the classes above it. -/
def line (info : ClassInfo) : List ClassInfo := info :: info.above.map classNamed

/-- What a class says about itself. -/
def describe (info : ClassInfo) : Subject :=
  match info.operations.find? (·.name == "__doc__") with
  | some op => .entry info op
  | none => textOrNull info.doc

/-- An attribute of a class. -/
def classAttribute (info : ClassInfo) (name : String) : Option Subject :=
  match name with
  | "__name__" | "__qualname__" => some (text info.name)
  | "__module__" => some (text "builtins")
  | "__doc__" => some (describe info)
  | "__text_signature__" => some (textOrNull info.signature)
  | "__dict__" => some (.members info)
  | "__mro__" => some (.tuple ((line info).map .cls))
  | "__bases__" => some (.tuple ((info.above.take 1).map fun n => .cls (classNamed n)))
  | "__base__" =>
    some ((info.above.head?.map fun n => .cls (classNamed n)).getD (.value .null))
  | "__basicsize__" => some (number info.sizes.basic)
  | "__itemsize__" => some (number info.sizes.item)
  | "__flags__" => some (number info.sizes.flags)
  | "__weakrefoffset__" => some (number info.sizes.weakReferences)
  | "__dictoffset__" => some (number info.sizes.dictionary)
  | _ => none

/-- An attribute of an operation, whose full name begins with `above`. -/
def operationAttribute (owner : ClassInfo) (above : String) (op : Operation) (name : String) :
    Option Subject :=
  match name with
  | "__name__" => some (text op.name)
  | "__qualname__" => some (text (above ++ "." ++ op.name))
  | "__objclass__" => some (.cls owner)
  | "__doc__" => some (textOrNull op.doc)
  | "__text_signature__" => some (textOrNull op.signature)
  | _ => none

/-- The name in front of an operation's own in its full name. -/
def fullNameStart (self : Subject) (owner : ClassInfo) (op : Operation) : String :=
  if op.kind = .slot then owner.name
  else
    match self with
    | .cls info => info.name
    | _ => (classOf self).name

/-- The value of an attribute that an object's class declares. -/
def declared? (s : Subject) (name : String) : Option Subject :=
  if name == "__class__" then some (.cls (classOf s))
  else
    match s with
    | .cls info => classAttribute info name
    | .entry owner op =>
      if op.kind = .maker then
        match name with
        | "__self__" => some (.cls owner)
        | "__module__" => some (.value .null)
        | _ => operationAttribute owner owner.name op name
      else operationAttribute owner owner.name op name
    | .bound self owner op =>
      match name with
      | "__self__" => some self
      | "__module__" => some (.value .null)
      | _ => operationAttribute owner (fullNameStart self owner op) op name
    | .value (.int i) =>
      match name with
      | "real" | "numerator" => some (number i)
      | "imag" => some (number 0)
      | "denominator" => some (number 1)
      | _ => none
    | .value (.bool b) =>
      match name with
      | "real" | "numerator" => some (number (if b then 1 else 0))
      | "imag" => some (number 0)
      | "denominator" => some (number 1)
      | _ => none
    | _ => none

/-- What an entry of a class is when an object is asked for it. -/
def bind (self : Subject) (owner : ClassInfo) (op : Operation) : Subject :=
  match op.kind with
  | .method | .slot => .bound self owner op
  | .classMethod => .bound (.cls (classOf self)) owner op
  | .function => .bound (.cls owner) owner op
  | .absent => .value .null
  | .maker | .computed | .stored => .entry owner op

/-- What an entry of a class is when the class itself is asked for it. -/
def bindToClass (info owner : ClassInfo) (op : Operation) : Subject :=
  match op.kind with
  | .classMethod => .bound (.cls info) owner op
  | .function => .bound (.cls owner) owner op
  | .absent => .value .null
  | _ => .entry owner op

def orNoMember (s : Option Subject) : Except Fault Subject :=
  match s with
  | some s => .ok s
  | none => .error .noSuchMember

/-- The attribute of a class: first what classes know about themselves, then its entries and those
of the classes above, then what every class can do. -/
def classMember (info : ClassInfo) (name : String) : Except Fault Subject :=
  let own := (findEntry name (line info)).map fun (owner, op) => bindToClass info owner op
  match findEntry name (line classClass) with
  | some (owner, op) =>
    if op.isAttribute then orNoMember (declared? (.cls info) name)
    else orNoMember (own <|> some (bind (.cls info) owner op))
  | none => orNoMember own

/-- The attribute of an object. -/
def member (s : Subject) (name : String) : Except Fault Subject :=
  match s with
  | .cls info => classMember info name
  | .specialised _ => .error .noSuchMember
  | _ =>
    match findEntry name (line (classOf s)) with
    | some (owner, op) =>
      if op.isAttribute then orNoMember (declared? s name) else .ok (bind s owner op)
    | none =>
      if name == "__doc__" then .ok (textOrNull (classOf s).doc) else .error .noSuchMember

/-! ## Items -/

/-- An index in brackets: a position or a name. -/
inductive Index where
  | position (n : Nat)
  | name (s : String)

def Index.quoted : Index → String
  | .position n => toString n
  | .name s => Text.quoted s

/-- The item of a sequence. -/
def itemAt (items : List Subject) : Index → Except Fault Subject
  | .position n =>
    match items[n]? with
    | some s => .ok s
    | none => .error .badPosition
  | .name _ => .error .wrongType

/-- Whether a class takes an argument in brackets. -/
def takesArgument (info : ClassInfo) : Bool :=
  info.name == classClass.name || info.operations.any (·.name == "__class_getitem__")

/-- The entry of a class by name, as the class holds it. -/
def heldItem (info : ClassInfo) : Index → Except Fault Subject
  | .position n => .error (.missingKey (.int n))
  | .name s =>
    match info.operations.find? (·.name == s) with
    | some op => .ok (if op.kind = .absent then .value .null else .entry info op)
    | none =>
      if s == "__doc__" then .ok (textOrNull info.doc) else .error (.missingKey (.text s))

/-- The item of an object under an index. -/
def item (s : Subject) (index : Index) : Except Fault Subject :=
  match s with
  | .value (.text t) => itemAt (t.toList.map fun c => text (String.singleton c)) index
  | .value (.bytes data) => itemAt (data.map fun b => number b.toNat) index
  | .tuple items => itemAt items index
  | .members info => heldItem info index
  | .cls info =>
    if takesArgument info then .ok (.specialised (info.name ++ "[" ++ index.quoted ++ "]"))
    else .error .wrongType
  | _ => .error .wrongType

end Subject

end BuildBench.Inspection
