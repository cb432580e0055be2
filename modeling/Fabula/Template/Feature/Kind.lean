import Fabula.Template.Feature

set_option autoImplicit false

namespace Fabula.Template.Feature

def ofAnything : List Feature :=
  [maker] ++
  operations ("__repr__ __hash__ __str__ __getattribute__ __setattr__ __delattr__ __lt__ " ++
    "__le__ __eq__ __ne__ __gt__ __ge__ __init__") ++
  [ability "__reduce_ex__" "($self, protocol, /)" "Helper for pickle.",
    ability "__reduce__" "($self, /)" "Helper for pickle.",
    ability "__getstate__" "($self, /)" "Helper for pickle.",
    own "__subclasshook__" "" <|
      "Abstract classes can override this to customize issubclass().\n\n" ++
      "This is invoked early on by abc.ABCMeta.__subclasscheck__().\n" ++
      "It should return True, False or NotImplemented.  If it returns\n" ++
      "NotImplemented, the normal algorithm is used.  Otherwise, it\n" ++
      "overrides the normal algorithm (and the outcome is cached).\n",
    own "__init_subclass__" "" <|
      "This method is called when a class is subclassed.\n\n" ++
      "The default implementation does nothing. It may be\noverridden to extend subclasses.\n",
    ability "__format__" "($self, format_spec, /)" "Default object formatter.",
    ability "__sizeof__" "($self, /)" "Size of object in memory, in bytes.",
    ability "__dir__" "($self, /)" "Default dir() implementation.",
    part "__class__" "the object's class",
    description <|
      "The base class of the class hierarchy.\n\n" ++
      "When called, it accepts no arguments and returns a new featureless\n" ++
      "instance that has no instance attributes and cannot be given any.\n"]

def ofKinds : List Feature :=
  [maker] ++
  operations ("__repr__ __call__ __getattribute__ __setattr__ __delattr__ __init__ __or__ " ++
    "__ror__") ++
  [ability "mro" "($self, /)" "Return a type's method resolution order.",
    ability "__subclasses__" "($self, /)" "Return a list of immediate subclasses.",
    own "__prepare__" "" <|
      "__prepare__() -> dict\nused to create the namespace for the class statement",
    ability "__instancecheck__" "($self, instance, /)" "Check if an object is an instance.",
    ability "__subclasscheck__" "($self, subclass, /)" "Check if a class is a subclass.",
    ability "__dir__" "($self, /)" "Specialized __dir__ implementation for types.",
    ability "__sizeof__" "($self, /)" "Return memory consumption of the type object."] ++
  slots "__basicsize__ __itemsize__ __flags__ __weakrefoffset__ __base__ __dictoffset__ __mro__" ++
  parts ("__name__ __qualname__ __bases__ __module__ __abstractmethods__ __dict__ __doc__ " ++
    "__text_signature__ __annotations__")

def ofApplied : List Feature :=
  [maker] ++
  operations ("__repr__ __hash__ __call__ __getattribute__ __lt__ __le__ __eq__ __ne__ __gt__ " ++
    "__ge__ __iter__ __or__ __ror__ __getitem__") ++
  abilities "__mro_entries__ __instancecheck__ __subclasscheck__ __reduce__ __dir__" ++
  slots "__origin__ __args__ __unpacked__" ++
  [part "__parameters__" "Type variables in the GenericAlias."] ++
  parts "__typing_unpacked_tuple_args__" ++
  [description <|
      "Represent a PEP 585 generic type\n\n" ++
      "E.g. for t = list[int], t.__origin__ is list and t.__args__ is (int,)."]

def ofNothing : List Feature :=
  [maker] ++
  operations "__repr__ __bool__" ++
  [absent "__doc__"]

end Fabula.Template.Feature
