import Fabula.Template.Kind

set_option autoImplicit false

namespace Fabula.Template

inductive Manner where
  /-- An ability of the values of a kind that operators use. -/
  | operation
  /-- An ability of the values of a kind. -/
  | ability
  /-- An ability of the kind that is asked. -/
  | own
  /-- An ability that belongs to nobody. -/
  | free
  /-- What makes values of the kind. -/
  | maker
  /-- A part of the values of a kind. -/
  | part
  /-- A part that is kept as it is. -/
  | slot
  | fixed
  deriving Repr, DecidableEq

structure Feature where
  name : String
  manner : Manner
  call : Option String
  note : Option String
  deriving Repr, DecidableEq

namespace Feature

def told (s : String) : Option String := if s = "" then none else some s

def words (s : String) : List String := s.splitOn " "

def operationNotes : List (String × String × String) := [
  ("__repr__", "($self, /)", "Return repr(self)."),
  ("__hash__", "($self, /)", "Return hash(self)."),
  ("__str__", "($self, /)", "Return str(self)."),
  ("__getattribute__", "($self, name, /)", "Return getattr(self, name)."),
  ("__lt__", "($self, value, /)", "Return self<value."),
  ("__le__", "($self, value, /)", "Return self<=value."),
  ("__eq__", "($self, value, /)", "Return self==value."),
  ("__ne__", "($self, value, /)", "Return self!=value."),
  ("__gt__", "($self, value, /)", "Return self>value."),
  ("__ge__", "($self, value, /)", "Return self>=value."),
  ("__iter__", "($self, /)", "Implement iter(self)."),
  ("__mod__", "($self, value, /)", "Return self%value."),
  ("__rmod__", "($self, value, /)", "Return value%self."),
  ("__len__", "($self, /)", "Return len(self)."),
  ("__getitem__", "($self, key, /)", "Return self[key]."),
  ("__add__", "($self, value, /)", "Return self+value."),
  ("__mul__", "($self, value, /)", "Return self*value."),
  ("__rmul__", "($self, value, /)", "Return value*self."),
  ("__contains__", "($self, key, /)", "Return key in self."),
  ("__radd__", "($self, value, /)", "Return value+self."),
  ("__sub__", "($self, value, /)", "Return self-value."),
  ("__rsub__", "($self, value, /)", "Return value-self."),
  ("__divmod__", "($self, value, /)", "Return divmod(self, value)."),
  ("__rdivmod__", "($self, value, /)", "Return divmod(value, self)."),
  ("__pow__", "($self, value, mod=None, /)", "Return pow(self, value, mod)."),
  ("__rpow__", "($self, value, mod=None, /)", "Return pow(value, self, mod)."),
  ("__neg__", "($self, /)", "-self"),
  ("__pos__", "($self, /)", "+self"),
  ("__abs__", "($self, /)", "abs(self)"),
  ("__bool__", "($self, /)", "True if self else False"),
  ("__invert__", "($self, /)", "~self"),
  ("__lshift__", "($self, value, /)", "Return self<<value."),
  ("__rlshift__", "($self, value, /)", "Return value<<self."),
  ("__rshift__", "($self, value, /)", "Return self>>value."),
  ("__rrshift__", "($self, value, /)", "Return value>>self."),
  ("__and__", "($self, value, /)", "Return self&value."),
  ("__rand__", "($self, value, /)", "Return value&self."),
  ("__xor__", "($self, value, /)", "Return self^value."),
  ("__rxor__", "($self, value, /)", "Return value^self."),
  ("__or__", "($self, value, /)", "Return self|value."),
  ("__ror__", "($self, value, /)", "Return value|self."),
  ("__int__", "($self, /)", "int(self)"),
  ("__float__", "($self, /)", "float(self)"),
  ("__floordiv__", "($self, value, /)", "Return self//value."),
  ("__rfloordiv__", "($self, value, /)", "Return value//self."),
  ("__truediv__", "($self, value, /)", "Return self/value."),
  ("__rtruediv__", "($self, value, /)", "Return value/self."),
  ("__index__", "($self, /)",
    "Return self converted to an integer, if self is suitable for use as an index into a list."),
  ("__init__", "($self, /, *args, **kwargs)",
    "Initialize self.  See help(type(self)) for accurate signature."),
  ("__ior__", "($self, value, /)", "Return self|=value."),
  ("__setitem__", "($self, key, value, /)", "Set self[key] to value."),
  ("__delitem__", "($self, key, /)", "Delete self[key]."),
  ("__setattr__", "($self, name, value, /)", "Implement setattr(self, name, value)."),
  ("__delattr__", "($self, name, /)", "Implement delattr(self, name)."),
  ("__call__", "($self, /, *args, **kwargs)", "Call self as a function."),
  ("__get__", "($self, instance, owner=None, /)",
    "Return an attribute of instance, which is of type owner."),
  ("__set__", "($self, instance, value, /)", "Set an attribute of instance to value."),
  ("__delete__", "($self, instance, /)", "Delete an attribute of instance.")]

def operation (name : String) : Feature :=
  match operationNotes.lookup name with
  | some (call, note) => ⟨name, .operation, told call, told note⟩
  | none => ⟨name, .operation, none, none⟩

def operations (names : String) : List Feature := (words names).map operation

def ability (name call note : String) : Feature := ⟨name, .ability, told call, told note⟩

def abilities (names : String) : List Feature := (words names).map (ability · "" "")

def own (name call note : String) : Feature := ⟨name, .own, told call, told note⟩

def free (name call note : String) : Feature := ⟨name, .free, told call, told note⟩

def maker : Feature :=
  ⟨"__new__", .maker, some "($type, *args, **kwargs)",
    some "Create and return a new object.  See help(type) for accurate signature."⟩

def part (name note : String) : Feature := ⟨name, .part, none, told note⟩

def parts (names : String) : List Feature := (words names).map (part · "")

def slots (names : String) : List Feature := (words names).map (⟨·, .slot, none, none⟩)

def description (note : String) : Feature := ⟨"__doc__", .fixed, none, some note⟩

def absent (name : String) : Feature := ⟨name, .fixed, none, none⟩

def isPart (f : Feature) : Bool := f.manner = .part ∨ f.manner = .slot

end Feature

end Fabula.Template
