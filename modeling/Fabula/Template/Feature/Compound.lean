import Fabula.Template.Feature

set_option autoImplicit false

namespace Fabula.Template.Feature

def ofRows : List Feature :=
  [maker] ++
  operations ("__repr__ __hash__ __getattribute__ __lt__ __le__ __eq__ __ne__ __gt__ __ge__ " ++
    "__iter__ __len__ __getitem__ __add__ __mul__ __rmul__ __contains__") ++
  [ability "__getnewargs__" "($self, /)" "",
    ability "index" "($self, value, start=0, stop=sys.maxsize, /)" <|
      "Return first index of value.\n\nRaises ValueError if the value is not present.",
    ability "count" "($self, value, /)" "Return number of occurrences of value.",
    own "__class_getitem__" "" "See PEP 585",
    description <|
      "Built-in immutable sequence.\n\n" ++
      "If no argument is given, the constructor returns an empty tuple.\n" ++
      "If iterable is specified the tuple is initialized from iterable's items.\n\n" ++
      "If the argument is a tuple, the return value is the same object."]

def ofMappings : List Feature :=
  [maker] ++
  operations "__repr__" ++
  [absent "__hash__"] ++
  operations ("__getattribute__ __lt__ __le__ __eq__ __ne__ __gt__ __ge__ __iter__ __init__ " ++
    "__or__ __ror__ __ior__ __len__") ++
  [ability "__getitem__" "" "x.__getitem__(y) <==> x[y]"] ++
  operations "__setitem__ __delitem__" ++
  [ability "__contains__" "($self, key, /)" <|
      "True if the dictionary has the specified key, else False.",
    ability "__sizeof__" "" "D.__sizeof__() -> size of D in memory, in bytes",
    ability "get" "($self, key, default=None, /)" <|
      "Return the value for key if key is in the dictionary, else default.",
    ability "setdefault" "($self, key, default=None, /)" <|
      "Insert key with a value of default if key is not in the dictionary.\n\n" ++
      "Return the value for key if key is in the dictionary, else default.",
    ability "pop" "($self, key, default=<unrepresentable>, /)" <|
      "D.pop(k[,d]) -> v, remove specified key and return the corresponding value.\n\n" ++
      "If the key is not found, return the default if given; otherwise,\nraise a KeyError.",
    ability "popitem" "($self, /)" <|
      "Remove and return a (key, value) pair as a 2-tuple.\n\n" ++
      "Pairs are returned in LIFO (last-in, first-out) order.\n" ++
      "Raises KeyError if the dict is empty.",
    ability "keys" "" "D.keys() -> a set-like object providing a view on D's keys",
    ability "items" "" "D.items() -> a set-like object providing a view on D's items",
    ability "values" "" "D.values() -> an object providing a view on D's values",
    ability "update" "" <|
      "D.update([E, ]**F) -> None.  Update D from dict/iterable E and F.\n" ++
      "If E is present and has a .keys() method, then does:  for k in E: D[k] = E[k]\n" ++
      "If E is present and lacks a .keys() method, then does:  for k, v in E: D[k] = v\n" ++
      "In either case, this is followed by: for k in F:  D[k] = F[k]",
    own "fromkeys" "($type, iterable, value=None, /)" <|
      "Create a new dictionary with keys from iterable and values set to value.",
    ability "clear" "" "D.clear() -> None.  Remove all items from D.",
    ability "copy" "" "D.copy() -> a shallow copy of D",
    ability "__reversed__" "($self, /)" "Return a reverse iterator over the dict keys.",
    own "__class_getitem__" "" "See PEP 585",
    description <|
      "dict() -> new empty dictionary\n" ++
      "dict(mapping) -> new dictionary initialized from a mapping object's\n" ++
      "    (key, value) pairs\ndict(iterable) -> new dictionary initialized as if via:\n" ++
      "    d = \x7b\x7d\n    for k, v in iterable:\n        d[k] = v\n" ++
      "dict(**kwargs) -> new dictionary initialized with the name=value pairs\n" ++
      "    in the keyword argument list.  For example:  dict(one=1, two=2)"]

def ofViews : List Feature :=
  [maker] ++
  operations ("__repr__ __str__ __getattribute__ __lt__ __le__ __eq__ __ne__ __gt__ __ge__ " ++
    "__iter__ __or__ __ror__ __ior__ __len__ __getitem__ __contains__") ++
  [ability "get" "" "D.get(k[,d]) -> D[k] if k in D, else d.  d defaults to None.",
    ability "keys" "" "D.keys() -> a set-like object providing a view on D's keys",
    ability "values" "" "D.values() -> an object providing a view on D's values",
    ability "items" "" "D.items() -> a set-like object providing a view on D's items",
    ability "copy" "" "D.copy() -> a shallow copy of D",
    own "__class_getitem__" "" "See PEP 585",
    ability "__reversed__" "" "D.__reversed__() -> reverse iterator",
    absent "__doc__",
    absent "__hash__"]

end Fabula.Template.Feature
