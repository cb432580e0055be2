import Fabula.Template.Feature

set_option autoImplicit false

namespace Fabula.Template.Feature

def ofNumbers : List Feature :=
  [maker] ++
  operations ("__repr__ __hash__ __getattribute__ __lt__ __le__ __eq__ __ne__ __gt__ __ge__ " ++
    "__add__ __radd__ __sub__ __rsub__ __mul__ __rmul__ __mod__ __rmod__ __divmod__ " ++
    "__rdivmod__ __pow__ __rpow__ __neg__ __pos__ __abs__ __bool__ __invert__ __lshift__ " ++
    "__rlshift__ __rshift__ __rrshift__ __and__ __rand__ __xor__ __rxor__ __or__ __ror__ " ++
    "__int__ __float__ __floordiv__ __rfloordiv__ __truediv__ __rtruediv__ __index__") ++
  [ability "conjugate" "" "Returns self, the complex conjugate of any int.",
    ability "bit_length" "($self, /)" <|
      "Number of bits necessary to represent self in binary.\n\n>>> bin(37)\n'0b100101'\n" ++
      ">>> (37).bit_length()\n6",
    ability "bit_count" "($self, /)" <|
      "Number of ones in the binary representation of the absolute value of self.\n\n" ++
      "Also known as the population count.\n\n>>> bin(13)\n'0b1101'\n>>> (13).bit_count()\n3",
    ability "to_bytes" "($self, /, length=1, byteorder='big', *, signed=False)" <|
      "Return an array of bytes representing an integer.\n\n  length\n" ++
      "    Length of bytes object to use.  An OverflowError is raised if the\n" ++
      "    integer is not representable with the given number of bytes.  Default\n" ++
      "    is length 1.\n  byteorder\n" ++
      "    The byte order used to represent the integer.  If byteorder is 'big',\n" ++
      "    the most significant byte is at the beginning of the byte array.  If\n" ++
      "    byteorder is 'little', the most significant byte is at the end of the\n" ++
      "    byte array.  To request the native byte order of the host system, use\n" ++
      "    `sys.byteorder' as the byte order value.  Default is to use 'big'.\n  signed\n" ++
      "    Determines whether two's complement is used to represent the integer.\n" ++
      "    If signed is False and a negative integer is given, an OverflowError\n    is raised.",
    own "from_bytes" "($type, /, bytes, byteorder='big', *, signed=False)" <|
      "Return the integer represented by the given array of bytes.\n\n  bytes\n" ++
      "    Holds the array of bytes to convert.  The argument must either\n" ++
      "    support the buffer protocol or be an iterable object producing bytes.\n" ++
      "    Bytes and bytearray are examples of built-in objects that support the\n" ++
      "    buffer protocol.\n  byteorder\n" ++
      "    The byte order used to represent the integer.  If byteorder is 'big',\n" ++
      "    the most significant byte is at the beginning of the byte array.  If\n" ++
      "    byteorder is 'little', the most significant byte is at the end of the\n" ++
      "    byte array.  To request the native byte order of the host system, use\n" ++
      "    `sys.byteorder' as the byte order value.  Default is to use 'big'.\n  signed\n" ++
      "    Indicates whether two's complement is used to represent the integer.",
    ability "as_integer_ratio" "($self, /)" <|
      "Return integer ratio.\n\n" ++
      "Return a pair of integers, whose ratio is exactly equal to the original int\n" ++
      "and with a positive denominator.\n\n>>> (10).as_integer_ratio()\n(10, 1)\n" ++
      ">>> (-10).as_integer_ratio()\n(-10, 1)\n>>> (0).as_integer_ratio()\n(0, 1)",
    ability "__trunc__" "" "Truncating an Integral returns itself.",
    ability "__floor__" "" "Flooring an Integral returns itself.",
    ability "__ceil__" "" "Ceiling of an Integral returns itself.",
    ability "__round__" "($self, ndigits=<unrepresentable>, /)" <|
      "Rounding an Integral returns itself.\n\n" ++
      "Rounding with an ndigits argument also returns an integer.",
    ability "__getnewargs__" "($self, /)" "",
    ability "__format__" "($self, format_spec, /)" "",
    ability "__sizeof__" "($self, /)" "Returns size in memory, in bytes.",
    part "real" "the real part of a complex number",
    part "imag" "the imaginary part of a complex number",
    part "numerator" "the numerator of a rational number in lowest terms",
    part "denominator" "the denominator of a rational number in lowest terms",
    description <|
      "int([x]) -> integer\nint(x, base=10) -> integer\n\n" ++
      "Convert a number or string to an integer, or return 0 if no arguments\n" ++
      "are given.  If x is a number, return x.__int__().  For floating point\n" ++
      "numbers, this truncates towards zero.\n\n" ++
      "If x is not a number or if base is given, then x must be a string,\n" ++
      "bytes, or bytearray instance representing an integer literal in the\n" ++
      "given base.  The literal can be preceded by '+' or '-' and be surrounded\n" ++
      "by whitespace.  The base defaults to 10.  Valid bases are 0 and 2-36.\n" ++
      "Base 0 means to interpret the base from the string as an integer literal.\n" ++
      ">>> int('0b100', base=0)\n4"]

def ofTruths : List Feature :=
  [maker] ++
  operations "__repr__ __and__ __rand__ __xor__ __rxor__ __or__ __ror__" ++
  [description <|
      "bool(x) -> bool\n\nReturns True when the argument x is true, False otherwise.\n" ++
      "The builtins True and False are the only two instances of the class bool.\n" ++
      "The class bool is a subclass of the class int, and cannot be subclassed."]

end Fabula.Template.Feature
