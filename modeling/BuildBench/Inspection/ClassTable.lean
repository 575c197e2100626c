import BuildBench.Inspection.Class

/-!
# The classes of classes

What is known about the class of all objects, about the class of classes, and about the classes of
what classes hold.
-/

namespace BuildBench.Inspection

/-- The class above all others. -/
def objectClass : ClassInfo where
  name := "object"
  above := []
  doc := some ("The base class of the class hierarchy.\n\nWhen called, it accepts no " ++
    "arguments and returns a new featureless\ninstance that has no instance " ++
    "attributes and cannot be given any.\n")
  signature := some "()"
  sizes := ⟨16, 0, 529664, 0, 0⟩
  operations := [
    ⟨"__new__", .maker, some ("Create and return a new object.  See help(type) for " ++
      "accurate signature."),
      some "($type, *args, **kwargs)"⟩,
    ⟨"__repr__", .slot, some "Return repr(self).", some "($self, /)"⟩,
    ⟨"__hash__", .slot, some "Return hash(self).", some "($self, /)"⟩,
    ⟨"__str__", .slot, some "Return str(self).", some "($self, /)"⟩,
    ⟨"__getattribute__", .slot, some "Return getattr(self, name).", some "($self, name, /)"⟩,
    ⟨"__setattr__", .slot, some "Implement setattr(self, name, value).",
      some "($self, name, value, /)"⟩,
    ⟨"__delattr__", .slot, some "Implement delattr(self, name).", some "($self, name, /)"⟩,
    ⟨"__lt__", .slot, some "Return self<value.", some "($self, value, /)"⟩,
    ⟨"__le__", .slot, some "Return self<=value.", some "($self, value, /)"⟩,
    ⟨"__eq__", .slot, some "Return self==value.", some "($self, value, /)"⟩,
    ⟨"__ne__", .slot, some "Return self!=value.", some "($self, value, /)"⟩,
    ⟨"__gt__", .slot, some "Return self>value.", some "($self, value, /)"⟩,
    ⟨"__ge__", .slot, some "Return self>=value.", some "($self, value, /)"⟩,
    ⟨"__init__", .slot, some ("Initialize self.  See help(type(self)) for accurate " ++
      "signature."),
      some "($self, /, *args, **kwargs)"⟩,
    ⟨"__reduce_ex__", .method, some "Helper for pickle.", some "($self, protocol, /)"⟩,
    ⟨"__reduce__", .method, some "Helper for pickle.", some "($self, /)"⟩,
    ⟨"__getstate__", .method, some "Helper for pickle.", some "($self, /)"⟩,
    ⟨"__subclasshook__", .classMethod, some ("Abstract classes can override this to " ++
      "customize issubclass().\n\nThis is invoked early on by " ++
      "abc.ABCMeta.__subclasscheck__().\nIt should return True, False or " ++
      "NotImplemented.  If it returns\nNotImplemented, the normal algorithm is used. " ++
      " Otherwise, it\noverrides the normal algorithm (and the outcome is cached).\n"),
      none⟩,
    ⟨"__init_subclass__", .classMethod, some ("This method is called when a class is " ++
      "subclassed.\n\nThe default implementation does nothing. It may be\noverridden " ++
      "to extend subclasses.\n"),
      none⟩,
    ⟨"__format__", .method, some "Default object formatter.", some "($self, format_spec, /)"⟩,
    ⟨"__sizeof__", .method, some "Size of object in memory, in bytes.", some "($self, /)"⟩,
    ⟨"__dir__", .method, some "Default dir() implementation.", some "($self, /)"⟩,
    ⟨"__class__", .computed, some "the object's class", none⟩]

/-- The class of classes. -/
def classClass : ClassInfo where
  name := "type"
  above := ["object"]
  sizes := ⟨904, 40, 2148031744, 368, 264⟩
  operations := [
    ⟨"__new__", .maker, some ("Create and return a new object.  See help(type) for " ++
      "accurate signature."),
      some "($type, *args, **kwargs)"⟩,
    ⟨"__repr__", .slot, some "Return repr(self).", some "($self, /)"⟩,
    ⟨"__call__", .slot, some "Call self as a function.", some "($self, /, *args, **kwargs)"⟩,
    ⟨"__getattribute__", .slot, some "Return getattr(self, name).", some "($self, name, /)"⟩,
    ⟨"__setattr__", .slot, some "Implement setattr(self, name, value).",
      some "($self, name, value, /)"⟩,
    ⟨"__delattr__", .slot, some "Implement delattr(self, name).", some "($self, name, /)"⟩,
    ⟨"__init__", .slot, some ("Initialize self.  See help(type(self)) for accurate " ++
      "signature."),
      some "($self, /, *args, **kwargs)"⟩,
    ⟨"__or__", .slot, some "Return self|value.", some "($self, value, /)"⟩,
    ⟨"__ror__", .slot, some "Return value|self.", some "($self, value, /)"⟩,
    ⟨"mro", .method, some "Return a type's method resolution order.", some "($self, /)"⟩,
    ⟨"__subclasses__", .method, some "Return a list of immediate subclasses.",
      some "($self, /)"⟩,
    ⟨"__prepare__", .classMethod, some ("__prepare__() -> dict\nused to create the " ++
      "namespace for the class statement"),
      none⟩,
    ⟨"__instancecheck__", .method, some "Check if an object is an instance.",
      some "($self, instance, /)"⟩,
    ⟨"__subclasscheck__", .method, some "Check if a class is a subclass.",
      some "($self, subclass, /)"⟩,
    ⟨"__dir__", .method, some "Specialized __dir__ implementation for types.",
      some "($self, /)"⟩,
    ⟨"__sizeof__", .method, some "Return memory consumption of the type object.",
      some "($self, /)"⟩,
    ⟨"__basicsize__", .stored, none, none⟩,
    ⟨"__itemsize__", .stored, none, none⟩,
    ⟨"__flags__", .stored, none, none⟩,
    ⟨"__weakrefoffset__", .stored, none, none⟩,
    ⟨"__base__", .stored, none, none⟩,
    ⟨"__dictoffset__", .stored, none, none⟩,
    ⟨"__mro__", .stored, none, none⟩,
    ⟨"__name__", .computed, none, none⟩,
    ⟨"__qualname__", .computed, none, none⟩,
    ⟨"__bases__", .computed, none, none⟩,
    ⟨"__module__", .computed, none, none⟩,
    ⟨"__abstractmethods__", .computed, none, none⟩,
    ⟨"__dict__", .computed, none, none⟩,
    ⟨"__doc__", .computed, none, none⟩,
    ⟨"__text_signature__", .computed, none, none⟩,
    ⟨"__annotations__", .computed, none, none⟩]

/-- The class of methods that belong to no object yet. -/
def methodClass : ClassInfo where
  name := "method_descriptor"
  above := ["object"]
  sizes := ⟨56, 0, 678272, 0, 0⟩
  operations := [
    ⟨"__repr__", .slot, some "Return repr(self).", some "($self, /)"⟩,
    ⟨"__call__", .slot, some "Call self as a function.", some "($self, /, *args, **kwargs)"⟩,
    ⟨"__getattribute__", .slot, some "Return getattr(self, name).", some "($self, name, /)"⟩,
    ⟨"__get__", .slot, some "Return an attribute of instance, which is of type owner.",
      some "($self, instance, owner=None, /)"⟩,
    ⟨"__reduce__", .method, none, none⟩,
    ⟨"__objclass__", .stored, none, none⟩,
    ⟨"__name__", .stored, none, none⟩,
    ⟨"__doc__", .computed, none, none⟩,
    ⟨"__qualname__", .computed, none, none⟩,
    ⟨"__text_signature__", .computed, none, none⟩]

/-- The class of built-in operations that belong to no object yet. -/
def slotClass : ClassInfo where
  name := "wrapper_descriptor"
  above := ["object"]
  sizes := ⟨56, 0, 676224, 0, 0⟩
  operations := [
    ⟨"__repr__", .slot, some "Return repr(self).", some "($self, /)"⟩,
    ⟨"__call__", .slot, some "Call self as a function.", some "($self, /, *args, **kwargs)"⟩,
    ⟨"__getattribute__", .slot, some "Return getattr(self, name).", some "($self, name, /)"⟩,
    ⟨"__get__", .slot, some "Return an attribute of instance, which is of type owner.",
      some "($self, instance, owner=None, /)"⟩,
    ⟨"__reduce__", .method, none, none⟩,
    ⟨"__objclass__", .stored, none, none⟩,
    ⟨"__name__", .stored, none, none⟩,
    ⟨"__doc__", .computed, none, none⟩,
    ⟨"__qualname__", .computed, none, none⟩,
    ⟨"__text_signature__", .computed, none, none⟩]

/-- The class of built-in operations of one object. -/
def boundSlotClass : ClassInfo where
  name := "method-wrapper"
  above := ["object"]
  sizes := ⟨32, 0, 20864, 0, 0⟩
  operations := [
    ⟨"__repr__", .slot, some "Return repr(self).", some "($self, /)"⟩,
    ⟨"__hash__", .slot, some "Return hash(self).", some "($self, /)"⟩,
    ⟨"__call__", .slot, some "Call self as a function.", some "($self, /, *args, **kwargs)"⟩,
    ⟨"__getattribute__", .slot, some "Return getattr(self, name).", some "($self, name, /)"⟩,
    ⟨"__lt__", .slot, some "Return self<value.", some "($self, value, /)"⟩,
    ⟨"__le__", .slot, some "Return self<=value.", some "($self, value, /)"⟩,
    ⟨"__eq__", .slot, some "Return self==value.", some "($self, value, /)"⟩,
    ⟨"__ne__", .slot, some "Return self!=value.", some "($self, value, /)"⟩,
    ⟨"__gt__", .slot, some "Return self>value.", some "($self, value, /)"⟩,
    ⟨"__ge__", .slot, some "Return self>=value.", some "($self, value, /)"⟩,
    ⟨"__reduce__", .method, none, none⟩,
    ⟨"__self__", .stored, none, none⟩,
    ⟨"__objclass__", .computed, none, none⟩,
    ⟨"__name__", .computed, none, none⟩,
    ⟨"__qualname__", .computed, none, none⟩,
    ⟨"__doc__", .computed, none, none⟩,
    ⟨"__text_signature__", .computed, none, none⟩]

/-- The class of methods of one object. -/
def boundMethodClass : ClassInfo where
  name := "builtin_function_or_method"
  above := ["object"]
  sizes := ⟨56, 0, 547200, 40, 0⟩
  operations := [
    ⟨"__repr__", .slot, some "Return repr(self).", some "($self, /)"⟩,
    ⟨"__hash__", .slot, some "Return hash(self).", some "($self, /)"⟩,
    ⟨"__call__", .slot, some "Call self as a function.", some "($self, /, *args, **kwargs)"⟩,
    ⟨"__getattribute__", .slot, some "Return getattr(self, name).", some "($self, name, /)"⟩,
    ⟨"__lt__", .slot, some "Return self<value.", some "($self, value, /)"⟩,
    ⟨"__le__", .slot, some "Return self<=value.", some "($self, value, /)"⟩,
    ⟨"__eq__", .slot, some "Return self==value.", some "($self, value, /)"⟩,
    ⟨"__ne__", .slot, some "Return self!=value.", some "($self, value, /)"⟩,
    ⟨"__gt__", .slot, some "Return self>value.", some "($self, value, /)"⟩,
    ⟨"__ge__", .slot, some "Return self>=value.", some "($self, value, /)"⟩,
    ⟨"__reduce__", .method, none, none⟩,
    ⟨"__module__", .stored, none, none⟩,
    ⟨"__doc__", .computed, none, none⟩,
    ⟨"__name__", .computed, none, none⟩,
    ⟨"__qualname__", .computed, none, none⟩,
    ⟨"__self__", .computed, none, none⟩,
    ⟨"__text_signature__", .computed, none, none⟩]

/-- The class of attributes that are computed. -/
def computedClass : ClassInfo where
  name := "getset_descriptor"
  above := ["object"]
  sizes := ⟨48, 0, 545152, 0, 0⟩
  operations := [
    ⟨"__repr__", .slot, some "Return repr(self).", some "($self, /)"⟩,
    ⟨"__getattribute__", .slot, some "Return getattr(self, name).", some "($self, name, /)"⟩,
    ⟨"__get__", .slot, some "Return an attribute of instance, which is of type owner.",
      some "($self, instance, owner=None, /)"⟩,
    ⟨"__set__", .slot, some "Set an attribute of instance to value.",
      some "($self, instance, value, /)"⟩,
    ⟨"__delete__", .slot, some "Delete an attribute of instance.",
      some "($self, instance, /)"⟩,
    ⟨"__objclass__", .stored, none, none⟩,
    ⟨"__name__", .stored, none, none⟩,
    ⟨"__doc__", .computed, none, none⟩,
    ⟨"__qualname__", .computed, none, none⟩]

/-- The class of attributes that are stored. -/
def storedClass : ClassInfo where
  name := "member_descriptor"
  above := ["object"]
  sizes := ⟨48, 0, 545152, 0, 0⟩
  operations := [
    ⟨"__repr__", .slot, some "Return repr(self).", some "($self, /)"⟩,
    ⟨"__getattribute__", .slot, some "Return getattr(self, name).", some "($self, name, /)"⟩,
    ⟨"__get__", .slot, some "Return an attribute of instance, which is of type owner.",
      some "($self, instance, owner=None, /)"⟩,
    ⟨"__set__", .slot, some "Set an attribute of instance to value.",
      some "($self, instance, value, /)"⟩,
    ⟨"__delete__", .slot, some "Delete an attribute of instance.",
      some "($self, instance, /)"⟩,
    ⟨"__reduce__", .method, none, none⟩,
    ⟨"__objclass__", .stored, none, none⟩,
    ⟨"__name__", .stored, none, none⟩,
    ⟨"__doc__", .computed, none, none⟩,
    ⟨"__qualname__", .computed, none, none⟩]

/-- The class of methods of a class. -/
def classMethodClass : ClassInfo where
  name := "classmethod_descriptor"
  above := ["object"]
  sizes := ⟨56, 0, 545152, 0, 0⟩
  operations := [
    ⟨"__repr__", .slot, some "Return repr(self).", some "($self, /)"⟩,
    ⟨"__call__", .slot, some "Call self as a function.", some "($self, /, *args, **kwargs)"⟩,
    ⟨"__getattribute__", .slot, some "Return getattr(self, name).", some "($self, name, /)"⟩,
    ⟨"__get__", .slot, some "Return an attribute of instance, which is of type owner.",
      some "($self, instance, owner=None, /)"⟩,
    ⟨"__objclass__", .stored, none, none⟩,
    ⟨"__name__", .stored, none, none⟩,
    ⟨"__doc__", .computed, none, none⟩,
    ⟨"__qualname__", .computed, none, none⟩,
    ⟨"__text_signature__", .computed, none, none⟩]

/-- The class of functions that belong to a class only by name. -/
def functionClass : ClassInfo where
  name := "staticmethod"
  above := ["object"]
  doc := some ("staticmethod(function) -> method\n\nConvert a function to be a static " ++
    "method.\n\nA static method does not receive an implicit first argument.\nTo " ++
    "declare a static method, use this idiom:\n\n     class C:\n         " ++
    "@staticmethod\n         def f(arg1, arg2, argN):\n             ...\n\nIt can be " ++
    "called either on the class (e.g. C.f()) or on an instance\n(e.g. C().f()). Both " ++
    "the class and the instance are ignored, and\nneither is passed implicitly as " ++
    "the first argument to the method.\n\nStatic methods in Python are similar to " ++
    "those found in Java or C++.\nFor a more advanced concept, see the classmethod " ++
    "builtin.")
  sizes := ⟨32, 0, 546048, 0, 24⟩
  operations := [
    ⟨"__new__", .maker, some ("Create and return a new object.  See help(type) for " ++
      "accurate signature."),
      some "($type, *args, **kwargs)"⟩,
    ⟨"__repr__", .slot, some "Return repr(self).", some "($self, /)"⟩,
    ⟨"__call__", .slot, some "Call self as a function.", some "($self, /, *args, **kwargs)"⟩,
    ⟨"__get__", .slot, some "Return an attribute of instance, which is of type owner.",
      some "($self, instance, owner=None, /)"⟩,
    ⟨"__init__", .slot, some ("Initialize self.  See help(type(self)) for accurate " ++
      "signature."),
      some "($self, /, *args, **kwargs)"⟩,
    ⟨"__func__", .stored, none, none⟩,
    ⟨"__wrapped__", .stored, none, none⟩,
    ⟨"__isabstractmethod__", .computed, none, none⟩,
    ⟨"__dict__", .computed, none, none⟩]

/-- The class of the view of what a class holds. -/
def membersClass : ClassInfo where
  name := "mappingproxy"
  above := ["object"]
  sizes := ⟨24, 0, 545088, 0, 0⟩
  operations := [
    ⟨"__new__", .maker, some ("Create and return a new object.  See help(type) for " ++
      "accurate signature."),
      some "($type, *args, **kwargs)"⟩,
    ⟨"__repr__", .slot, some "Return repr(self).", some "($self, /)"⟩,
    ⟨"__str__", .slot, some "Return str(self).", some "($self, /)"⟩,
    ⟨"__getattribute__", .slot, some "Return getattr(self, name).", some "($self, name, /)"⟩,
    ⟨"__lt__", .slot, some "Return self<value.", some "($self, value, /)"⟩,
    ⟨"__le__", .slot, some "Return self<=value.", some "($self, value, /)"⟩,
    ⟨"__eq__", .slot, some "Return self==value.", some "($self, value, /)"⟩,
    ⟨"__ne__", .slot, some "Return self!=value.", some "($self, value, /)"⟩,
    ⟨"__gt__", .slot, some "Return self>value.", some "($self, value, /)"⟩,
    ⟨"__ge__", .slot, some "Return self>=value.", some "($self, value, /)"⟩,
    ⟨"__iter__", .slot, some "Implement iter(self).", some "($self, /)"⟩,
    ⟨"__or__", .slot, some "Return self|value.", some "($self, value, /)"⟩,
    ⟨"__ror__", .slot, some "Return value|self.", some "($self, value, /)"⟩,
    ⟨"__ior__", .slot, some "Return self|=value.", some "($self, value, /)"⟩,
    ⟨"__len__", .slot, some "Return len(self).", some "($self, /)"⟩,
    ⟨"__getitem__", .slot, some "Return self[key].", some "($self, key, /)"⟩,
    ⟨"__contains__", .slot, some "Return key in self.", some "($self, key, /)"⟩,
    ⟨"get", .method, some "D.get(k[,d]) -> D[k] if k in D, else d.  d defaults to None.",
      none⟩,
    ⟨"keys", .method, some "D.keys() -> a set-like object providing a view on D's keys", none⟩,
    ⟨"values", .method, some "D.values() -> an object providing a view on D's values", none⟩,
    ⟨"items", .method, some ("D.items() -> a set-like object providing a view on D's " ++
      "items"),
      none⟩,
    ⟨"copy", .method, some "D.copy() -> a shallow copy of D", none⟩,
    ⟨"__class_getitem__", .classMethod, some "See PEP 585", none⟩,
    ⟨"__reversed__", .method, some "D.__reversed__() -> reverse iterator", none⟩,
    ⟨"__hash__", .absent, none, none⟩]

end BuildBench.Inspection
