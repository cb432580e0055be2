import Fabula.Template.Feature

set_option autoImplicit false

namespace Fabula.Template.Feature

def ofAbilities : List Feature :=
  operations ("__repr__ __hash__ __call__ __getattribute__ __lt__ __le__ __eq__ __ne__ __gt__ " ++
    "__ge__") ++
  abilities "__reduce__" ++
  slots "__module__" ++
  parts "__doc__ __name__ __qualname__ __self__ __text_signature__"

def ofOperations : List Feature :=
  operations ("__repr__ __hash__ __call__ __getattribute__ __lt__ __le__ __eq__ __ne__ __gt__ " ++
    "__ge__") ++
  abilities "__reduce__" ++
  slots "__self__" ++
  parts "__objclass__ __name__ __qualname__ __doc__ __text_signature__"

def ofAnyAbilities : List Feature :=
  operations "__repr__ __call__ __getattribute__ __get__" ++
  abilities "__reduce__" ++
  slots "__objclass__ __name__" ++
  parts "__doc__ __qualname__ __text_signature__"

def ofAnyOperations : List Feature :=
  operations "__repr__ __call__ __getattribute__ __get__" ++
  abilities "__reduce__" ++
  slots "__objclass__ __name__" ++
  parts "__doc__ __qualname__ __text_signature__"

def ofAnyParts : List Feature :=
  operations "__repr__ __getattribute__ __get__ __set__ __delete__" ++
  slots "__objclass__ __name__" ++
  parts "__doc__ __qualname__"

def ofAnySlots : List Feature :=
  operations "__repr__ __getattribute__ __get__ __set__ __delete__" ++
  abilities "__reduce__" ++
  slots "__objclass__ __name__" ++
  parts "__doc__ __qualname__"

def ofOwnAbilities : List Feature :=
  operations "__repr__ __call__ __getattribute__ __get__" ++
  slots "__objclass__ __name__" ++
  parts "__doc__ __qualname__ __text_signature__"

def ofFreeAbilities : List Feature :=
  [maker] ++
  operations "__repr__ __call__ __get__ __init__" ++
  slots "__func__ __wrapped__" ++
  parts "__isabstractmethod__ __dict__" ++
  [description <|
      "staticmethod(function) -> method\n\nConvert a function to be a static method.\n\n" ++
      "A static method does not receive an implicit first argument.\n" ++
      "To declare a static method, use this idiom:\n\n     class C:\n         @staticmethod\n" ++
      "         def f(arg1, arg2, argN):\n             ...\n\n" ++
      "It can be called either on the class (e.g. C.f()) or on an instance\n" ++
      "(e.g. C().f()). Both the class and the instance are ignored, and\n" ++
      "neither is passed implicitly as the first argument to the method.\n\n" ++
      "Static methods in Python are similar to those found in Java or C++.\n" ++
      "For a more advanced concept, see the classmethod builtin."]

end Fabula.Template.Feature
