import RouteDocs.Module.Library.Kind

namespace RouteDocs.Module.Library

def integerMembers : List Member := [
  ⟨"__new__", .staticMethod,
    "Create and return a new object.  See help(type) for accurate signature."⟩,
  ⟨"__repr__", .method, "Return repr(self)."⟩,
  ⟨"__hash__", .method, "Return hash(self)."⟩,
  ⟨"__getattribute__", .method, "Return getattr(self, name)."⟩,
  ⟨"__lt__", .method, "Return self<value."⟩,
  ⟨"__le__", .method, "Return self<=value."⟩,
  ⟨"__eq__", .method, "Return self==value."⟩,
  ⟨"__ne__", .method, "Return self!=value."⟩,
  ⟨"__gt__", .method, "Return self>value."⟩,
  ⟨"__ge__", .method, "Return self>=value."⟩,
  ⟨"__add__", .method, "Return self+value."⟩,
  ⟨"__radd__", .method, "Return value+self."⟩,
  ⟨"__sub__", .method, "Return self-value."⟩,
  ⟨"__rsub__", .method, "Return value-self."⟩,
  ⟨"__mul__", .method, "Return self*value."⟩,
  ⟨"__rmul__", .method, "Return value*self."⟩,
  ⟨"__mod__", .method, "Return self%value."⟩,
  ⟨"__rmod__", .method, "Return value%self."⟩,
  ⟨"__divmod__", .method, "Return divmod(self, value)."⟩,
  ⟨"__rdivmod__", .method, "Return divmod(value, self)."⟩,
  ⟨"__pow__", .method, "Return pow(self, value, mod)."⟩,
  ⟨"__rpow__", .method, "Return pow(value, self, mod)."⟩,
  ⟨"__neg__", .method, "-self"⟩,
  ⟨"__pos__", .method, "+self"⟩,
  ⟨"__abs__", .method, "abs(self)"⟩,
  ⟨"__bool__", .method, "True if self else False"⟩,
  ⟨"__invert__", .method, "~self"⟩,
  ⟨"__lshift__", .method, "Return self<<value."⟩,
  ⟨"__rlshift__", .method, "Return value<<self."⟩,
  ⟨"__rshift__", .method, "Return self>>value."⟩,
  ⟨"__rrshift__", .method, "Return value>>self."⟩,
  ⟨"__and__", .method, "Return self&value."⟩,
  ⟨"__rand__", .method, "Return value&self."⟩,
  ⟨"__xor__", .method, "Return self^value."⟩,
  ⟨"__rxor__", .method, "Return value^self."⟩,
  ⟨"__or__", .method, "Return self|value."⟩,
  ⟨"__ror__", .method, "Return value|self."⟩,
  ⟨"__int__", .method, "int(self)"⟩,
  ⟨"__float__", .method, "float(self)"⟩,
  ⟨"__floordiv__", .method, "Return self//value."⟩,
  ⟨"__rfloordiv__", .method, "Return value//self."⟩,
  ⟨"__truediv__", .method, "Return self/value."⟩,
  ⟨"__rtruediv__", .method, "Return value/self."⟩,
  ⟨"__index__", .method,
    "Return self converted to an integer, if self is suitable for use as an index into a " ++
    "list."⟩,
  ⟨"conjugate", .method, "Returns self, the complex conjugate of any int."⟩,
  ⟨"bit_length", .method,
    "Number of bits necessary to represent self in binary.\n\n>>> bin(37)\n'0b100101'\n>>> " ++
    "(37).bit_length()\n6"⟩,
  ⟨"bit_count", .method,
    "Number of ones in the binary representation of the absolute value of self.\n\nAlso " ++
    "known as the population count.\n\n>>> bin(13)\n'0b1101'\n>>> (13).bit_count()\n3"⟩,
  ⟨"to_bytes", .method,
    "Return an array of bytes representing an integer.\n\n  length\n    Length of bytes " ++
    "object to use.  An OverflowError is raised if the\n    integer is not representable " ++
    "with the given number of bytes.  Default\n    is length 1.\n  byteorder\n    The byte " ++
    "order used to represent the integer.  If byteorder is 'big',\n    the most significant " ++
    "byte is at the beginning of the byte array.  If\n    byteorder is 'little', the most " ++
    "significant byte is at the end of the\n    byte array.  To request the native byte " ++
    "order of the host system, use\n    `sys.byteorder' as the byte order value.  Default is " ++
    "to use 'big'.\n  signed\n    Determines whether two's complement is used to represent " ++
    "the integer.\n    If signed is False and a negative integer is given, an " ++
    "OverflowError\n    is raised."⟩,
  ⟨"from_bytes", .classMethod,
    "Return the integer represented by the given array of bytes.\n\n  bytes\n    Holds the " ++
    "array of bytes to convert.  The argument must either\n    support the buffer protocol " ++
    "or be an iterable object producing bytes.\n    Bytes and bytearray are examples of " ++
    "built-in objects that support the\n    buffer protocol.\n  byteorder\n    The byte " ++
    "order used to represent the integer.  If byteorder is 'big',\n    the most significant " ++
    "byte is at the beginning of the byte array.  If\n    byteorder is 'little', the most " ++
    "significant byte is at the end of the\n    byte array.  To request the native byte " ++
    "order of the host system, use\n    `sys.byteorder' as the byte order value.  Default is " ++
    "to use 'big'.\n  signed\n    Indicates whether two's complement is used to represent " ++
    "the integer."⟩,
  ⟨"as_integer_ratio", .method,
    "Return integer ratio.\n\nReturn a pair of integers, whose ratio is exactly equal to the " ++
    "original int\nand with a positive denominator.\n\n>>> (10).as_integer_ratio()\n(10, " ++
    "1)\n>>> (-10).as_integer_ratio()\n(-10, 1)\n>>> (0).as_integer_ratio()\n(0, 1)"⟩,
  ⟨"__trunc__", .method, "Truncating an Integral returns itself."⟩,
  ⟨"__floor__", .method, "Flooring an Integral returns itself."⟩,
  ⟨"__ceil__", .method, "Ceiling of an Integral returns itself."⟩,
  ⟨"__round__", .method,
    "Rounding an Integral returns itself.\n\nRounding with an ndigits argument also returns " ++
    "an integer."⟩,
  ⟨"__getnewargs__", .method, ""⟩,
  ⟨"__format__", .method, ""⟩,
  ⟨"__sizeof__", .method, "Returns size in memory, in bytes."⟩,
  ⟨"real", .field, "the real part of a complex number"⟩,
  ⟨"imag", .field, "the imaginary part of a complex number"⟩,
  ⟨"numerator", .field, "the numerator of a rational number in lowest terms"⟩,
  ⟨"denominator", .field, "the denominator of a rational number in lowest terms"⟩]

def boolMembers : List Member := [
  ⟨"__new__", .staticMethod,
    "Create and return a new object.  See help(type) for accurate signature."⟩,
  ⟨"__repr__", .method, "Return repr(self)."⟩,
  ⟨"__and__", .method, "Return self&value."⟩,
  ⟨"__rand__", .method, "Return value&self."⟩,
  ⟨"__xor__", .method, "Return self^value."⟩,
  ⟨"__rxor__", .method, "Return value^self."⟩,
  ⟨"__or__", .method, "Return self|value."⟩,
  ⟨"__ror__", .method, "Return value|self."⟩]

def realMembers : List Member := [
  ⟨"__new__", .staticMethod,
    "Create and return a new object.  See help(type) for accurate signature."⟩,
  ⟨"__repr__", .method, "Return repr(self)."⟩,
  ⟨"__hash__", .method, "Return hash(self)."⟩,
  ⟨"__getattribute__", .method, "Return getattr(self, name)."⟩,
  ⟨"__lt__", .method, "Return self<value."⟩,
  ⟨"__le__", .method, "Return self<=value."⟩,
  ⟨"__eq__", .method, "Return self==value."⟩,
  ⟨"__ne__", .method, "Return self!=value."⟩,
  ⟨"__gt__", .method, "Return self>value."⟩,
  ⟨"__ge__", .method, "Return self>=value."⟩,
  ⟨"__add__", .method, "Return self+value."⟩,
  ⟨"__radd__", .method, "Return value+self."⟩,
  ⟨"__sub__", .method, "Return self-value."⟩,
  ⟨"__rsub__", .method, "Return value-self."⟩,
  ⟨"__mul__", .method, "Return self*value."⟩,
  ⟨"__rmul__", .method, "Return value*self."⟩,
  ⟨"__mod__", .method, "Return self%value."⟩,
  ⟨"__rmod__", .method, "Return value%self."⟩,
  ⟨"__divmod__", .method, "Return divmod(self, value)."⟩,
  ⟨"__rdivmod__", .method, "Return divmod(value, self)."⟩,
  ⟨"__pow__", .method, "Return pow(self, value, mod)."⟩,
  ⟨"__rpow__", .method, "Return pow(value, self, mod)."⟩,
  ⟨"__neg__", .method, "-self"⟩,
  ⟨"__pos__", .method, "+self"⟩,
  ⟨"__abs__", .method, "abs(self)"⟩,
  ⟨"__bool__", .method, "True if self else False"⟩,
  ⟨"__int__", .method, "int(self)"⟩,
  ⟨"__float__", .method, "float(self)"⟩,
  ⟨"__floordiv__", .method, "Return self//value."⟩,
  ⟨"__rfloordiv__", .method, "Return value//self."⟩,
  ⟨"__truediv__", .method, "Return self/value."⟩,
  ⟨"__rtruediv__", .method, "Return value/self."⟩,
  ⟨"conjugate", .method, "Return self, the complex conjugate of any float."⟩,
  ⟨"__trunc__", .method, "Return the Integral closest to x between 0 and x."⟩,
  ⟨"__floor__", .method, "Return the floor as an Integral."⟩,
  ⟨"__ceil__", .method, "Return the ceiling as an Integral."⟩,
  ⟨"__round__", .method,
    "Return the Integral closest to x, rounding half toward even.\n\nWhen an argument is " ++
    "passed, work like built-in round(x, ndigits)."⟩,
  ⟨"as_integer_ratio", .method,
    "Return integer ratio.\n\nReturn a pair of integers, whose ratio is exactly equal to the " ++
    "original float\nand with a positive denominator.\n\nRaise OverflowError on infinities " ++
    "and a ValueError on NaNs.\n\n>>> (10.0).as_integer_ratio()\n(10, 1)\n>>> " ++
    "(0.0).as_integer_ratio()\n(0, 1)\n>>> (-.25).as_integer_ratio()\n(-1, 4)"⟩,
  ⟨"fromhex", .classMethod,
    "Create a floating-point number from a hexadecimal string.\n\n>>> " ++
    "float.fromhex('0x1.ffffp10')\n2047.984375\n>>> float.fromhex('-0x1p-1074')\n-5e-324"⟩,
  ⟨"hex", .method,
    "Return a hexadecimal representation of a floating-point number.\n\n>>> " ++
    "(-0.1).hex()\n'-0x1.999999999999ap-4'\n>>> 3.14159.hex()\n'0x1.921f9f01b866ep+1'"⟩,
  ⟨"is_integer", .method, "Return True if the float is an integer."⟩,
  ⟨"__getnewargs__", .method, ""⟩,
  ⟨"__getformat__", .classMethod,
    "You probably don't want to use this function.\n\n  typestr\n    Must be 'double' or " ++
    "'float'.\n\nIt exists mainly to be used in Python's test suite.\n\nThis function " ++
    "returns whichever of 'unknown', 'IEEE, big-endian' or 'IEEE,\nlittle-endian' best " ++
    "describes the format of floating point numbers used by the\nC type named by typestr."⟩,
  ⟨"__format__", .method, "Formats the float according to format_spec."⟩,
  ⟨"real", .field, "the real part of a complex number"⟩,
  ⟨"imag", .field, "the imaginary part of a complex number"⟩]

def complexMembers : List Member := [
  ⟨"__new__", .staticMethod,
    "Create and return a new object.  See help(type) for accurate signature."⟩,
  ⟨"__repr__", .method, "Return repr(self)."⟩,
  ⟨"__hash__", .method, "Return hash(self)."⟩,
  ⟨"__getattribute__", .method, "Return getattr(self, name)."⟩,
  ⟨"__lt__", .method, "Return self<value."⟩,
  ⟨"__le__", .method, "Return self<=value."⟩,
  ⟨"__eq__", .method, "Return self==value."⟩,
  ⟨"__ne__", .method, "Return self!=value."⟩,
  ⟨"__gt__", .method, "Return self>value."⟩,
  ⟨"__ge__", .method, "Return self>=value."⟩,
  ⟨"__add__", .method, "Return self+value."⟩,
  ⟨"__radd__", .method, "Return value+self."⟩,
  ⟨"__sub__", .method, "Return self-value."⟩,
  ⟨"__rsub__", .method, "Return value-self."⟩,
  ⟨"__mul__", .method, "Return self*value."⟩,
  ⟨"__rmul__", .method, "Return value*self."⟩,
  ⟨"__pow__", .method, "Return pow(self, value, mod)."⟩,
  ⟨"__rpow__", .method, "Return pow(value, self, mod)."⟩,
  ⟨"__neg__", .method, "-self"⟩,
  ⟨"__pos__", .method, "+self"⟩,
  ⟨"__abs__", .method, "abs(self)"⟩,
  ⟨"__bool__", .method, "True if self else False"⟩,
  ⟨"__truediv__", .method, "Return self/value."⟩,
  ⟨"__rtruediv__", .method, "Return value/self."⟩,
  ⟨"conjugate", .method,
    "Return the complex conjugate of its argument. (3-4j).conjugate() == 3+4j."⟩,
  ⟨"__complex__", .method, "Convert this value to exact type complex."⟩,
  ⟨"__getnewargs__", .method, ""⟩,
  ⟨"__format__", .method, "Convert to a string according to format_spec."⟩,
  ⟨"real", .field, "the real part of a complex number"⟩,
  ⟨"imag", .field, "the imaginary part of a complex number"⟩]

def textMembers : List Member := [
  ⟨"__new__", .staticMethod,
    "Create and return a new object.  See help(type) for accurate signature."⟩,
  ⟨"__repr__", .method, "Return repr(self)."⟩,
  ⟨"__hash__", .method, "Return hash(self)."⟩,
  ⟨"__str__", .method, "Return str(self)."⟩,
  ⟨"__getattribute__", .method, "Return getattr(self, name)."⟩,
  ⟨"__lt__", .method, "Return self<value."⟩,
  ⟨"__le__", .method, "Return self<=value."⟩,
  ⟨"__eq__", .method, "Return self==value."⟩,
  ⟨"__ne__", .method, "Return self!=value."⟩,
  ⟨"__gt__", .method, "Return self>value."⟩,
  ⟨"__ge__", .method, "Return self>=value."⟩,
  ⟨"__iter__", .method, "Implement iter(self)."⟩,
  ⟨"__mod__", .method, "Return self%value."⟩,
  ⟨"__rmod__", .method, "Return value%self."⟩,
  ⟨"__len__", .method, "Return len(self)."⟩,
  ⟨"__getitem__", .method, "Return self[key]."⟩,
  ⟨"__add__", .method, "Return self+value."⟩,
  ⟨"__mul__", .method, "Return self*value."⟩,
  ⟨"__rmul__", .method, "Return value*self."⟩,
  ⟨"__contains__", .method, "Return key in self."⟩,
  ⟨"encode", .method,
    "Encode the string using the codec registered for encoding.\n\n  encoding\n    The " ++
    "encoding in which to encode the string.\n  errors\n    The error handling scheme to use " ++
    "for encoding errors.\n    The default is 'strict' meaning that encoding errors raise " ++
    "a\n    UnicodeEncodeError.  Other possible values are 'ignore', 'replace' and\n    " ++
    "'xmlcharrefreplace' as well as any other name registered with\n    " ++
    "codecs.register_error that can handle UnicodeEncodeErrors."⟩,
  ⟨"replace", .method,
    "Return a copy with all occurrences of substring old replaced by new.\n\n  count\n    " ++
    "Maximum number of occurrences to replace.\n    -1 (the default value) means replace all " ++
    "occurrences.\n\nIf the optional argument count is given, only the first count " ++
    "occurrences are\nreplaced."⟩,
  ⟨"split", .method,
    "Return a list of the substrings in the string, using sep as the separator string.\n\n  " ++
    "sep\n    The separator used to split the string.\n\n    When set to None (the default " ++
    "value), will split on any whitespace\n    character (including \\n \\r \\t \\f and " ++
    "spaces) and will discard\n    empty strings from the result.\n  maxsplit\n    Maximum " ++
    "number of splits.\n    -1 (the default value) means no limit.\n\nSplitting starts at " ++
    "the front of the string and works to the end.\n\nNote, str.split() is mainly useful for " ++
    "data that has been intentionally\ndelimited.  With natural text that includes " ++
    "punctuation, consider using\nthe regular expression module."⟩,
  ⟨"rsplit", .method,
    "Return a list of the substrings in the string, using sep as the separator string.\n\n  " ++
    "sep\n    The separator used to split the string.\n\n    When set to None (the default " ++
    "value), will split on any whitespace\n    character (including \\n \\r \\t \\f and " ++
    "spaces) and will discard\n    empty strings from the result.\n  maxsplit\n    Maximum " ++
    "number of splits.\n    -1 (the default value) means no limit.\n\nSplitting starts at " ++
    "the end of the string and works to the front."⟩,
  ⟨"join", .method,
    "Concatenate any number of strings.\n\nThe string whose method is called is inserted in " ++
    "between each given string.\nThe result is returned as a new string.\n\nExample: " ++
    "'.'.join(['ab', 'pq', 'rs']) -> 'ab.pq.rs'"⟩,
  ⟨"capitalize", .method,
    "Return a capitalized version of the string.\n\nMore specifically, make the first " ++
    "character have upper case and the rest lower\ncase."⟩,
  ⟨"casefold", .method, "Return a version of the string suitable for caseless comparisons."⟩,
  ⟨"title", .method,
    "Return a version of the string where each word is titlecased.\n\nMore specifically, " ++
    "words start with uppercased characters and all remaining\ncased characters have lower " ++
    "case."⟩,
  ⟨"center", .method,
    "Return a centered string of length width.\n\nPadding is done using the specified fill " ++
    "character (default is a space)."⟩,
  ⟨"count", .method,
    "S.count(sub[, start[, end]]) -> int\n\nReturn the number of non-overlapping occurrences " ++
    "of substring sub in\nstring S[start:end].  Optional arguments start and end " ++
    "are\ninterpreted as in slice notation."⟩,
  ⟨"expandtabs", .method,
    "Return a copy where all tab characters are expanded using spaces.\n\nIf tabsize is not " ++
    "given, a tab size of 8 characters is assumed."⟩,
  ⟨"find", .method,
    "S.find(sub[, start[, end]]) -> int\n\nReturn the lowest index in S where substring sub " ++
    "is found,\nsuch that sub is contained within S[start:end].  Optional\narguments start " ++
    "and end are interpreted as in slice notation.\n\nReturn -1 on failure."⟩,
  ⟨"partition", .method,
    "Partition the string into three parts using the given separator.\n\nThis will search " ++
    "for the separator in the string.  If the separator is found,\nreturns a 3-tuple " ++
    "containing the part before the separator, the separator\nitself, and the part after " ++
    "it.\n\nIf the separator is not found, returns a 3-tuple containing the original " ++
    "string\nand two empty strings."⟩,
  ⟨"index", .method,
    "S.index(sub[, start[, end]]) -> int\n\nReturn the lowest index in S where substring sub " ++
    "is found,\nsuch that sub is contained within S[start:end].  Optional\narguments start " ++
    "and end are interpreted as in slice notation.\n\nRaises ValueError when the substring " ++
    "is not found."⟩,
  ⟨"ljust", .method,
    "Return a left-justified string of length width.\n\nPadding is done using the specified " ++
    "fill character (default is a space)."⟩,
  ⟨"lower", .method, "Return a copy of the string converted to lowercase."⟩,
  ⟨"lstrip", .method,
    "Return a copy of the string with leading whitespace removed.\n\nIf chars is given and " ++
    "not None, remove characters in chars instead."⟩,
  ⟨"rfind", .method,
    "S.rfind(sub[, start[, end]]) -> int\n\nReturn the highest index in S where substring " ++
    "sub is found,\nsuch that sub is contained within S[start:end].  Optional\narguments " ++
    "start and end are interpreted as in slice notation.\n\nReturn -1 on failure."⟩,
  ⟨"rindex", .method,
    "S.rindex(sub[, start[, end]]) -> int\n\nReturn the highest index in S where substring " ++
    "sub is found,\nsuch that sub is contained within S[start:end].  Optional\narguments " ++
    "start and end are interpreted as in slice notation.\n\nRaises ValueError when the " ++
    "substring is not found."⟩,
  ⟨"rjust", .method,
    "Return a right-justified string of length width.\n\nPadding is done using the specified " ++
    "fill character (default is a space)."⟩,
  ⟨"rstrip", .method,
    "Return a copy of the string with trailing whitespace removed.\n\nIf chars is given and " ++
    "not None, remove characters in chars instead."⟩,
  ⟨"rpartition", .method,
    "Partition the string into three parts using the given separator.\n\nThis will search " ++
    "for the separator in the string, starting at the end. If\nthe separator is found, " ++
    "returns a 3-tuple containing the part before the\nseparator, the separator itself, and " ++
    "the part after it.\n\nIf the separator is not found, returns a 3-tuple containing two " ++
    "empty strings\nand the original string."⟩,
  ⟨"splitlines", .method,
    "Return a list of the lines in the string, breaking at line boundaries.\n\nLine breaks " ++
    "are not included in the resulting list unless keepends is given and\ntrue."⟩,
  ⟨"strip", .method,
    "Return a copy of the string with leading and trailing whitespace removed.\n\nIf chars " ++
    "is given and not None, remove characters in chars instead."⟩,
  ⟨"swapcase", .method,
    "Convert uppercase characters to lowercase and lowercase characters to uppercase."⟩,
  ⟨"translate", .method,
    "Replace each character in the string using the given translation table.\n\n  table\n    " ++
    "Translation table, which must be a mapping of Unicode ordinals to\n    Unicode " ++
    "ordinals, strings, or None.\n\nThe table must implement lookup/indexing via " ++
    "__getitem__, for instance a\ndictionary or list.  If this operation raises LookupError, " ++
    "the character is\nleft untouched.  Characters mapped to None are deleted."⟩,
  ⟨"upper", .method, "Return a copy of the string converted to uppercase."⟩,
  ⟨"startswith", .method,
    "S.startswith(prefix[, start[, end]]) -> bool\n\nReturn True if S starts with the " ++
    "specified prefix, False otherwise.\nWith optional start, test S beginning at that " ++
    "position.\nWith optional end, stop comparing S at that position.\nprefix can also be a " ++
    "tuple of strings to try."⟩,
  ⟨"endswith", .method,
    "S.endswith(suffix[, start[, end]]) -> bool\n\nReturn True if S ends with the specified " ++
    "suffix, False otherwise.\nWith optional start, test S beginning at that position.\nWith " ++
    "optional end, stop comparing S at that position.\nsuffix can also be a tuple of strings " ++
    "to try."⟩,
  ⟨"removeprefix", .method,
    "Return a str with the given prefix string removed if present.\n\nIf the string starts " ++
    "with the prefix string, return string[len(prefix):].\nOtherwise, return a copy of the " ++
    "original string."⟩,
  ⟨"removesuffix", .method,
    "Return a str with the given suffix string removed if present.\n\nIf the string ends " ++
    "with the suffix string and that suffix is not empty,\nreturn string[:-len(suffix)]. " ++
    "Otherwise, return a copy of the original\nstring."⟩,
  ⟨"isascii", .method,
    "Return True if all characters in the string are ASCII, False otherwise.\n\nASCII " ++
    "characters have code points in the range U+0000-U+007F.\nEmpty string is ASCII too."⟩,
  ⟨"islower", .method,
    "Return True if the string is a lowercase string, False otherwise.\n\nA string is " ++
    "lowercase if all cased characters in the string are lowercase and\nthere is at least " ++
    "one cased character in the string."⟩,
  ⟨"isupper", .method,
    "Return True if the string is an uppercase string, False otherwise.\n\nA string is " ++
    "uppercase if all cased characters in the string are uppercase and\nthere is at least " ++
    "one cased character in the string."⟩,
  ⟨"istitle", .method,
    "Return True if the string is a title-cased string, False otherwise.\n\nIn a title-cased " ++
    "string, upper- and title-case characters may only\nfollow uncased characters and " ++
    "lowercase characters only cased ones."⟩,
  ⟨"isspace", .method,
    "Return True if the string is a whitespace string, False otherwise.\n\nA string is " ++
    "whitespace if all characters in the string are whitespace and there\nis at least one " ++
    "character in the string."⟩,
  ⟨"isdecimal", .method,
    "Return True if the string is a decimal string, False otherwise.\n\nA string is a " ++
    "decimal string if all characters in the string are decimal and\nthere is at least one " ++
    "character in the string."⟩,
  ⟨"isdigit", .method,
    "Return True if the string is a digit string, False otherwise.\n\nA string is a digit " ++
    "string if all characters in the string are digits and there\nis at least one character " ++
    "in the string."⟩,
  ⟨"isnumeric", .method,
    "Return True if the string is a numeric string, False otherwise.\n\nA string is numeric " ++
    "if all characters in the string are numeric and there is at\nleast one character in the " ++
    "string."⟩,
  ⟨"isalpha", .method,
    "Return True if the string is an alphabetic string, False otherwise.\n\nA string is " ++
    "alphabetic if all characters in the string are alphabetic and there\nis at least one " ++
    "character in the string."⟩,
  ⟨"isalnum", .method,
    "Return True if the string is an alpha-numeric string, False otherwise.\n\nA string is " ++
    "alpha-numeric if all characters in the string are alpha-numeric and\nthere is at least " ++
    "one character in the string."⟩,
  ⟨"isidentifier", .method,
    "Return True if the string is a valid Python identifier, False otherwise.\n\nCall " ++
    "keyword.iskeyword(s) to test whether string s is a reserved identifier,\nsuch as " ++
    "\"def\" or \"class\"."⟩,
  ⟨"isprintable", .method,
    "Return True if the string is printable, False otherwise.\n\nA string is printable if " ++
    "all of its characters are considered printable in\nrepr() or if it is empty."⟩,
  ⟨"zfill", .method,
    "Pad a numeric string with zeros on the left, to fill a field of the given width.\n\nThe " ++
    "string is never truncated."⟩,
  ⟨"format", .method,
    "S.format(*args, **kwargs) -> str\n\nReturn a formatted version of S, using " ++
    "substitutions from args and kwargs.\nThe substitutions are identified by braces ('\x7b' " ++
    "and '\x7d')."⟩,
  ⟨"format_map", .method,
    "S.format_map(mapping) -> str\n\nReturn a formatted version of S, using substitutions " ++
    "from mapping.\nThe substitutions are identified by braces ('\x7b' and '\x7d')."⟩,
  ⟨"__format__", .method,
    "Return a formatted version of the string as described by format_spec."⟩,
  ⟨"maketrans", .staticMethod,
    "Return a translation table usable for str.translate().\n\nIf there is only one " ++
    "argument, it must be a dictionary mapping Unicode\nordinals (integers) or characters to " ++
    "Unicode ordinals, strings or None.\nCharacter keys will be then converted to " ++
    "ordinals.\nIf there are two arguments, they must be strings of equal length, and\nin " ++
    "the resulting dictionary, each character in x will be mapped to the\ncharacter at the " ++
    "same position in y. If there is a third argument, it\nmust be a string, whose " ++
    "characters will be mapped to None in the result."⟩,
  ⟨"__sizeof__", .method, "Return the size of the string in memory, in bytes."⟩,
  ⟨"__getnewargs__", .method, ""⟩]

def bytesMembers : List Member := [
  ⟨"__new__", .staticMethod,
    "Create and return a new object.  See help(type) for accurate signature."⟩,
  ⟨"__repr__", .method, "Return repr(self)."⟩,
  ⟨"__hash__", .method, "Return hash(self)."⟩,
  ⟨"__str__", .method, "Return str(self)."⟩,
  ⟨"__getattribute__", .method, "Return getattr(self, name)."⟩,
  ⟨"__lt__", .method, "Return self<value."⟩,
  ⟨"__le__", .method, "Return self<=value."⟩,
  ⟨"__eq__", .method, "Return self==value."⟩,
  ⟨"__ne__", .method, "Return self!=value."⟩,
  ⟨"__gt__", .method, "Return self>value."⟩,
  ⟨"__ge__", .method, "Return self>=value."⟩,
  ⟨"__iter__", .method, "Implement iter(self)."⟩,
  ⟨"__mod__", .method, "Return self%value."⟩,
  ⟨"__rmod__", .method, "Return value%self."⟩,
  ⟨"__len__", .method, "Return len(self)."⟩,
  ⟨"__getitem__", .method, "Return self[key]."⟩,
  ⟨"__add__", .method, "Return self+value."⟩,
  ⟨"__mul__", .method, "Return self*value."⟩,
  ⟨"__rmul__", .method, "Return value*self."⟩,
  ⟨"__contains__", .method, "Return key in self."⟩,
  ⟨"__getnewargs__", .method, ""⟩,
  ⟨"__bytes__", .method, "Convert this value to exact type bytes."⟩,
  ⟨"capitalize", .method,
    "B.capitalize() -> copy of B\n\nReturn a copy of B with only its first character " ++
    "capitalized (ASCII)\nand the rest lower-cased."⟩,
  ⟨"center", .method,
    "Return a centered string of length width.\n\nPadding is done using the specified fill " ++
    "character."⟩,
  ⟨"count", .method,
    "B.count(sub[, start[, end]]) -> int\n\nReturn the number of non-overlapping occurrences " ++
    "of subsection sub in\nbytes B[start:end].  Optional arguments start and end are " ++
    "interpreted\nas in slice notation."⟩,
  ⟨"decode", .method,
    "Decode the bytes using the codec registered for encoding.\n\n  encoding\n    The " ++
    "encoding with which to decode the bytes.\n  errors\n    The error handling scheme to " ++
    "use for the handling of decoding errors.\n    The default is 'strict' meaning that " ++
    "decoding errors raise a\n    UnicodeDecodeError. Other possible values are 'ignore' and " ++
    "'replace'\n    as well as any other name registered with codecs.register_error that\n   " ++
    " can handle UnicodeDecodeErrors."⟩,
  ⟨"endswith", .method,
    "B.endswith(suffix[, start[, end]]) -> bool\n\nReturn True if B ends with the specified " ++
    "suffix, False otherwise.\nWith optional start, test B beginning at that position.\nWith " ++
    "optional end, stop comparing B at that position.\nsuffix can also be a tuple of bytes " ++
    "to try."⟩,
  ⟨"expandtabs", .method,
    "Return a copy where all tab characters are expanded using spaces.\n\nIf tabsize is not " ++
    "given, a tab size of 8 characters is assumed."⟩,
  ⟨"find", .method,
    "B.find(sub[, start[, end]]) -> int\n\nReturn the lowest index in B where subsection sub " ++
    "is found,\nsuch that sub is contained within B[start,end].  Optional\narguments start " ++
    "and end are interpreted as in slice notation.\n\nReturn -1 on failure."⟩,
  ⟨"fromhex", .classMethod,
    "Create a bytes object from a string of hexadecimal numbers.\n\nSpaces between two " ++
    "numbers are accepted.\nExample: bytes.fromhex('B9 01EF') -> b'\\\\xb9\\\\x01\\\\xef'."⟩,
  ⟨"hex", .method,
    "Create a string of hexadecimal numbers from a bytes object.\n\n  sep\n    An optional " ++
    "single character or byte to separate hex bytes.\n  bytes_per_sep\n    How many bytes " ++
    "between separators.  Positive values count from the\n    right, negative values count " ++
    "from the left.\n\nExample:\n>>> value = b'\\xb9\\x01\\xef'\n>>> " ++
    "value.hex()\n'b901ef'\n>>> value.hex(':')\n'b9:01:ef'\n>>> value.hex(':', " ++
    "2)\n'b9:01ef'\n>>> value.hex(':', -2)\n'b901:ef'"⟩,
  ⟨"index", .method,
    "B.index(sub[, start[, end]]) -> int\n\nReturn the lowest index in B where subsection " ++
    "sub is found,\nsuch that sub is contained within B[start,end].  Optional\narguments " ++
    "start and end are interpreted as in slice notation.\n\nRaises ValueError when the " ++
    "subsection is not found."⟩,
  ⟨"isalnum", .method,
    "B.isalnum() -> bool\n\nReturn True if all characters in B are alphanumeric\nand there " ++
    "is at least one character in B, False otherwise."⟩,
  ⟨"isalpha", .method,
    "B.isalpha() -> bool\n\nReturn True if all characters in B are alphabetic\nand there is " ++
    "at least one character in B, False otherwise."⟩,
  ⟨"isascii", .method,
    "B.isascii() -> bool\n\nReturn True if B is empty or all characters in B are " ++
    "ASCII,\nFalse otherwise."⟩,
  ⟨"isdigit", .method,
    "B.isdigit() -> bool\n\nReturn True if all characters in B are digits\nand there is at " ++
    "least one character in B, False otherwise."⟩,
  ⟨"islower", .method,
    "B.islower() -> bool\n\nReturn True if all cased characters in B are lowercase and there " ++
    "is\nat least one cased character in B, False otherwise."⟩,
  ⟨"isspace", .method,
    "B.isspace() -> bool\n\nReturn True if all characters in B are whitespace\nand there is " ++
    "at least one character in B, False otherwise."⟩,
  ⟨"istitle", .method,
    "B.istitle() -> bool\n\nReturn True if B is a titlecased string and there is at least " ++
    "one\ncharacter in B, i.e. uppercase characters may only follow uncased\ncharacters and " ++
    "lowercase characters only cased ones. Return False\notherwise."⟩,
  ⟨"isupper", .method,
    "B.isupper() -> bool\n\nReturn True if all cased characters in B are uppercase and there " ++
    "is\nat least one cased character in B, False otherwise."⟩,
  ⟨"join", .method,
    "Concatenate any number of bytes objects.\n\nThe bytes whose method is called is " ++
    "inserted in between each pair.\n\nThe result is returned as a new bytes " ++
    "object.\n\nExample: b'.'.join([b'ab', b'pq', b'rs']) -> b'ab.pq.rs'."⟩,
  ⟨"ljust", .method,
    "Return a left-justified string of length width.\n\nPadding is done using the specified " ++
    "fill character."⟩,
  ⟨"lower", .method,
    "B.lower() -> copy of B\n\nReturn a copy of B with all ASCII characters converted to " ++
    "lowercase."⟩,
  ⟨"lstrip", .method,
    "Strip leading bytes contained in the argument.\n\nIf the argument is omitted or None, " ++
    "strip leading  ASCII whitespace."⟩,
  ⟨"maketrans", .staticMethod,
    "Return a translation table useable for the bytes or bytearray translate method.\n\nThe " ++
    "returned table will be one where each byte in frm is mapped to the byte at\nthe same " ++
    "position in to.\n\nThe bytes objects frm and to must be of the same length."⟩,
  ⟨"partition", .method,
    "Partition the bytes into three parts using the given separator.\n\nThis will search for " ++
    "the separator sep in the bytes. If the separator is found,\nreturns a 3-tuple " ++
    "containing the part before the separator, the separator\nitself, and the part after " ++
    "it.\n\nIf the separator is not found, returns a 3-tuple containing the original " ++
    "bytes\nobject and two empty bytes objects."⟩,
  ⟨"replace", .method,
    "Return a copy with all occurrences of substring old replaced by new.\n\n  count\n    " ++
    "Maximum number of occurrences to replace.\n    -1 (the default value) means replace all " ++
    "occurrences.\n\nIf the optional argument count is given, only the first count " ++
    "occurrences are\nreplaced."⟩,
  ⟨"removeprefix", .method,
    "Return a bytes object with the given prefix string removed if present.\n\nIf the bytes " ++
    "starts with the prefix string, return bytes[len(prefix):].\nOtherwise, return a copy of " ++
    "the original bytes."⟩,
  ⟨"removesuffix", .method,
    "Return a bytes object with the given suffix string removed if present.\n\nIf the bytes " ++
    "ends with the suffix string and that suffix is not empty,\nreturn bytes[:-len(prefix)]. " ++
    " Otherwise, return a copy of the original\nbytes."⟩,
  ⟨"rfind", .method,
    "B.rfind(sub[, start[, end]]) -> int\n\nReturn the highest index in B where subsection " ++
    "sub is found,\nsuch that sub is contained within B[start,end].  Optional\narguments " ++
    "start and end are interpreted as in slice notation.\n\nReturn -1 on failure."⟩,
  ⟨"rindex", .method,
    "B.rindex(sub[, start[, end]]) -> int\n\nReturn the highest index in B where subsection " ++
    "sub is found,\nsuch that sub is contained within B[start,end].  Optional\narguments " ++
    "start and end are interpreted as in slice notation.\n\nRaise ValueError when the " ++
    "subsection is not found."⟩,
  ⟨"rjust", .method,
    "Return a right-justified string of length width.\n\nPadding is done using the specified " ++
    "fill character."⟩,
  ⟨"rpartition", .method,
    "Partition the bytes into three parts using the given separator.\n\nThis will search for " ++
    "the separator sep in the bytes, starting at the end. If\nthe separator is found, " ++
    "returns a 3-tuple containing the part before the\nseparator, the separator itself, and " ++
    "the part after it.\n\nIf the separator is not found, returns a 3-tuple containing two " ++
    "empty bytes\nobjects and the original bytes object."⟩,
  ⟨"rsplit", .method,
    "Return a list of the sections in the bytes, using sep as the delimiter.\n\n  sep\n    " ++
    "The delimiter according which to split the bytes.\n    None (the default value) means " ++
    "split on ASCII whitespace characters\n    (space, tab, return, newline, formfeed, " ++
    "vertical tab).\n  maxsplit\n    Maximum number of splits to do.\n    -1 (the default " ++
    "value) means no limit.\n\nSplitting is done starting at the end of the bytes and " ++
    "working to the front."⟩,
  ⟨"rstrip", .method,
    "Strip trailing bytes contained in the argument.\n\nIf the argument is omitted or None, " ++
    "strip trailing ASCII whitespace."⟩,
  ⟨"split", .method,
    "Return a list of the sections in the bytes, using sep as the delimiter.\n\n  sep\n    " ++
    "The delimiter according which to split the bytes.\n    None (the default value) means " ++
    "split on ASCII whitespace characters\n    (space, tab, return, newline, formfeed, " ++
    "vertical tab).\n  maxsplit\n    Maximum number of splits to do.\n    -1 (the default " ++
    "value) means no limit."⟩,
  ⟨"splitlines", .method,
    "Return a list of the lines in the bytes, breaking at line boundaries.\n\nLine breaks " ++
    "are not included in the resulting list unless keepends is given and\ntrue."⟩,
  ⟨"startswith", .method,
    "B.startswith(prefix[, start[, end]]) -> bool\n\nReturn True if B starts with the " ++
    "specified prefix, False otherwise.\nWith optional start, test B beginning at that " ++
    "position.\nWith optional end, stop comparing B at that position.\nprefix can also be a " ++
    "tuple of bytes to try."⟩,
  ⟨"strip", .method,
    "Strip leading and trailing bytes contained in the argument.\n\nIf the argument is " ++
    "omitted or None, strip leading and trailing ASCII whitespace."⟩,
  ⟨"swapcase", .method,
    "B.swapcase() -> copy of B\n\nReturn a copy of B with uppercase ASCII characters " ++
    "converted\nto lowercase ASCII and vice versa."⟩,
  ⟨"title", .method,
    "B.title() -> copy of B\n\nReturn a titlecased version of B, i.e. ASCII words start with " ++
    "uppercase\ncharacters, all remaining cased characters have lowercase."⟩,
  ⟨"translate", .method,
    "Return a copy with each character mapped by the given translation table.\n\n  table\n   " ++
    " Translation table, which must be a bytes object of length 256.\n\nAll characters " ++
    "occurring in the optional argument delete are removed.\nThe remaining characters are " ++
    "mapped through the given translation table."⟩,
  ⟨"upper", .method,
    "B.upper() -> copy of B\n\nReturn a copy of B with all ASCII characters converted to " ++
    "uppercase."⟩,
  ⟨"zfill", .method,
    "Pad a numeric string with zeros on the left, to fill a field of the given width.\n\nThe " ++
    "original string is never truncated."⟩]

def bytearrayMembers : List Member := [
  ⟨"__new__", .staticMethod,
    "Create and return a new object.  See help(type) for accurate signature."⟩,
  ⟨"__repr__", .method, "Return repr(self)."⟩,
  ⟨"__str__", .method, "Return str(self)."⟩,
  ⟨"__getattribute__", .method, "Return getattr(self, name)."⟩,
  ⟨"__lt__", .method, "Return self<value."⟩,
  ⟨"__le__", .method, "Return self<=value."⟩,
  ⟨"__eq__", .method, "Return self==value."⟩,
  ⟨"__ne__", .method, "Return self!=value."⟩,
  ⟨"__gt__", .method, "Return self>value."⟩,
  ⟨"__ge__", .method, "Return self>=value."⟩,
  ⟨"__iter__", .method, "Implement iter(self)."⟩,
  ⟨"__init__", .method, "Initialize self.  See help(type(self)) for accurate signature."⟩,
  ⟨"__mod__", .method, "Return self%value."⟩,
  ⟨"__rmod__", .method, "Return value%self."⟩,
  ⟨"__len__", .method, "Return len(self)."⟩,
  ⟨"__getitem__", .method, "Return self[key]."⟩,
  ⟨"__setitem__", .method, "Set self[key] to value."⟩,
  ⟨"__delitem__", .method, "Delete self[key]."⟩,
  ⟨"__add__", .method, "Return self+value."⟩,
  ⟨"__mul__", .method, "Return self*value."⟩,
  ⟨"__rmul__", .method, "Return value*self."⟩,
  ⟨"__contains__", .method, "Return key in self."⟩,
  ⟨"__iadd__", .method, "Implement self+=value."⟩,
  ⟨"__imul__", .method, "Implement self*=value."⟩,
  ⟨"__alloc__", .method,
    "B.__alloc__() -> int\n\nReturn the number of bytes actually allocated."⟩,
  ⟨"__reduce__", .method, "Return state information for pickling."⟩,
  ⟨"__reduce_ex__", .method, "Return state information for pickling."⟩,
  ⟨"__sizeof__", .method, "Returns the size of the bytearray object in memory, in bytes."⟩,
  ⟨"append", .method,
    "Append a single item to the end of the bytearray.\n\n  item\n    The item to be " ++
    "appended."⟩,
  ⟨"capitalize", .method,
    "B.capitalize() -> copy of B\n\nReturn a copy of B with only its first character " ++
    "capitalized (ASCII)\nand the rest lower-cased."⟩,
  ⟨"center", .method,
    "Return a centered string of length width.\n\nPadding is done using the specified fill " ++
    "character."⟩,
  ⟨"clear", .method, "Remove all items from the bytearray."⟩,
  ⟨"copy", .method, "Return a copy of B."⟩,
  ⟨"count", .method,
    "B.count(sub[, start[, end]]) -> int\n\nReturn the number of non-overlapping occurrences " ++
    "of subsection sub in\nbytes B[start:end].  Optional arguments start and end are " ++
    "interpreted\nas in slice notation."⟩,
  ⟨"decode", .method,
    "Decode the bytearray using the codec registered for encoding.\n\n  encoding\n    The " ++
    "encoding with which to decode the bytearray.\n  errors\n    The error handling scheme " ++
    "to use for the handling of decoding errors.\n    The default is 'strict' meaning that " ++
    "decoding errors raise a\n    UnicodeDecodeError. Other possible values are 'ignore' and " ++
    "'replace'\n    as well as any other name registered with codecs.register_error that\n   " ++
    " can handle UnicodeDecodeErrors."⟩,
  ⟨"endswith", .method,
    "B.endswith(suffix[, start[, end]]) -> bool\n\nReturn True if B ends with the specified " ++
    "suffix, False otherwise.\nWith optional start, test B beginning at that position.\nWith " ++
    "optional end, stop comparing B at that position.\nsuffix can also be a tuple of bytes " ++
    "to try."⟩,
  ⟨"expandtabs", .method,
    "Return a copy where all tab characters are expanded using spaces.\n\nIf tabsize is not " ++
    "given, a tab size of 8 characters is assumed."⟩,
  ⟨"extend", .method,
    "Append all the items from the iterator or sequence to the end of the bytearray.\n\n  " ++
    "iterable_of_ints\n    The iterable of items to append."⟩,
  ⟨"find", .method,
    "B.find(sub[, start[, end]]) -> int\n\nReturn the lowest index in B where subsection sub " ++
    "is found,\nsuch that sub is contained within B[start,end].  Optional\narguments start " ++
    "and end are interpreted as in slice notation.\n\nReturn -1 on failure."⟩,
  ⟨"fromhex", .classMethod,
    "Create a bytearray object from a string of hexadecimal numbers.\n\nSpaces between two " ++
    "numbers are accepted.\nExample: bytearray.fromhex('B9 01EF') -> " ++
    "bytearray(b'\\\\xb9\\\\x01\\\\xef')"⟩,
  ⟨"hex", .method,
    "Create a string of hexadecimal numbers from a bytearray object.\n\n  sep\n    An " ++
    "optional single character or byte to separate hex bytes.\n  bytes_per_sep\n    How many " ++
    "bytes between separators.  Positive values count from the\n    right, negative values " ++
    "count from the left.\n\nExample:\n>>> value = bytearray([0xb9, 0x01, 0xef])\n>>> " ++
    "value.hex()\n'b901ef'\n>>> value.hex(':')\n'b9:01:ef'\n>>> value.hex(':', " ++
    "2)\n'b9:01ef'\n>>> value.hex(':', -2)\n'b901:ef'"⟩,
  ⟨"index", .method,
    "B.index(sub[, start[, end]]) -> int\n\nReturn the lowest index in B where subsection " ++
    "sub is found,\nsuch that sub is contained within B[start,end].  Optional\narguments " ++
    "start and end are interpreted as in slice notation.\n\nRaises ValueError when the " ++
    "subsection is not found."⟩,
  ⟨"insert", .method,
    "Insert a single item into the bytearray before the given index.\n\n  index\n    The " ++
    "index where the value is to be inserted.\n  item\n    The item to be inserted."⟩,
  ⟨"isalnum", .method,
    "B.isalnum() -> bool\n\nReturn True if all characters in B are alphanumeric\nand there " ++
    "is at least one character in B, False otherwise."⟩,
  ⟨"isalpha", .method,
    "B.isalpha() -> bool\n\nReturn True if all characters in B are alphabetic\nand there is " ++
    "at least one character in B, False otherwise."⟩,
  ⟨"isascii", .method,
    "B.isascii() -> bool\n\nReturn True if B is empty or all characters in B are " ++
    "ASCII,\nFalse otherwise."⟩,
  ⟨"isdigit", .method,
    "B.isdigit() -> bool\n\nReturn True if all characters in B are digits\nand there is at " ++
    "least one character in B, False otherwise."⟩,
  ⟨"islower", .method,
    "B.islower() -> bool\n\nReturn True if all cased characters in B are lowercase and there " ++
    "is\nat least one cased character in B, False otherwise."⟩,
  ⟨"isspace", .method,
    "B.isspace() -> bool\n\nReturn True if all characters in B are whitespace\nand there is " ++
    "at least one character in B, False otherwise."⟩,
  ⟨"istitle", .method,
    "B.istitle() -> bool\n\nReturn True if B is a titlecased string and there is at least " ++
    "one\ncharacter in B, i.e. uppercase characters may only follow uncased\ncharacters and " ++
    "lowercase characters only cased ones. Return False\notherwise."⟩,
  ⟨"isupper", .method,
    "B.isupper() -> bool\n\nReturn True if all cased characters in B are uppercase and there " ++
    "is\nat least one cased character in B, False otherwise."⟩,
  ⟨"join", .method,
    "Concatenate any number of bytes/bytearray objects.\n\nThe bytearray whose method is " ++
    "called is inserted in between each pair.\n\nThe result is returned as a new bytearray " ++
    "object."⟩,
  ⟨"ljust", .method,
    "Return a left-justified string of length width.\n\nPadding is done using the specified " ++
    "fill character."⟩,
  ⟨"lower", .method,
    "B.lower() -> copy of B\n\nReturn a copy of B with all ASCII characters converted to " ++
    "lowercase."⟩,
  ⟨"lstrip", .method,
    "Strip leading bytes contained in the argument.\n\nIf the argument is omitted or None, " ++
    "strip leading ASCII whitespace."⟩,
  ⟨"maketrans", .staticMethod,
    "Return a translation table useable for the bytes or bytearray translate method.\n\nThe " ++
    "returned table will be one where each byte in frm is mapped to the byte at\nthe same " ++
    "position in to.\n\nThe bytes objects frm and to must be of the same length."⟩,
  ⟨"partition", .method,
    "Partition the bytearray into three parts using the given separator.\n\nThis will search " ++
    "for the separator sep in the bytearray. If the separator is\nfound, returns a 3-tuple " ++
    "containing the part before the separator, the\nseparator itself, and the part after it " ++
    "as new bytearray objects.\n\nIf the separator is not found, returns a 3-tuple " ++
    "containing the copy of the\noriginal bytearray object and two empty bytearray objects."⟩,
  ⟨"pop", .method,
    "Remove and return a single item from B.\n\n  index\n    The index from where to remove " ++
    "the item.\n    -1 (the default value) means remove the last item.\n\nIf no index " ++
    "argument is given, will pop the last item."⟩,
  ⟨"remove", .method,
    "Remove the first occurrence of a value in the bytearray.\n\n  value\n    The value to " ++
    "remove."⟩,
  ⟨"replace", .method,
    "Return a copy with all occurrences of substring old replaced by new.\n\n  count\n    " ++
    "Maximum number of occurrences to replace.\n    -1 (the default value) means replace all " ++
    "occurrences.\n\nIf the optional argument count is given, only the first count " ++
    "occurrences are\nreplaced."⟩,
  ⟨"removeprefix", .method,
    "Return a bytearray with the given prefix string removed if present.\n\nIf the bytearray " ++
    "starts with the prefix string, return\nbytearray[len(prefix):].  Otherwise, return a " ++
    "copy of the original\nbytearray."⟩,
  ⟨"removesuffix", .method,
    "Return a bytearray with the given suffix string removed if present.\n\nIf the bytearray " ++
    "ends with the suffix string and that suffix is not\nempty, return " ++
    "bytearray[:-len(suffix)].  Otherwise, return a copy of\nthe original bytearray."⟩,
  ⟨"reverse", .method, "Reverse the order of the values in B in place."⟩,
  ⟨"rfind", .method,
    "B.rfind(sub[, start[, end]]) -> int\n\nReturn the highest index in B where subsection " ++
    "sub is found,\nsuch that sub is contained within B[start,end].  Optional\narguments " ++
    "start and end are interpreted as in slice notation.\n\nReturn -1 on failure."⟩,
  ⟨"rindex", .method,
    "B.rindex(sub[, start[, end]]) -> int\n\nReturn the highest index in B where subsection " ++
    "sub is found,\nsuch that sub is contained within B[start,end].  Optional\narguments " ++
    "start and end are interpreted as in slice notation.\n\nRaise ValueError when the " ++
    "subsection is not found."⟩,
  ⟨"rjust", .method,
    "Return a right-justified string of length width.\n\nPadding is done using the specified " ++
    "fill character."⟩,
  ⟨"rpartition", .method,
    "Partition the bytearray into three parts using the given separator.\n\nThis will search " ++
    "for the separator sep in the bytearray, starting at the end.\nIf the separator is " ++
    "found, returns a 3-tuple containing the part before the\nseparator, the separator " ++
    "itself, and the part after it as new bytearray\nobjects.\n\nIf the separator is not " ++
    "found, returns a 3-tuple containing two empty bytearray\nobjects and the copy of the " ++
    "original bytearray object."⟩,
  ⟨"rsplit", .method,
    "Return a list of the sections in the bytearray, using sep as the delimiter.\n\n  sep\n  " ++
    "  The delimiter according which to split the bytearray.\n    None (the default value) " ++
    "means split on ASCII whitespace characters\n    (space, tab, return, newline, formfeed, " ++
    "vertical tab).\n  maxsplit\n    Maximum number of splits to do.\n    -1 (the default " ++
    "value) means no limit.\n\nSplitting is done starting at the end of the bytearray and " ++
    "working to the front."⟩,
  ⟨"rstrip", .method,
    "Strip trailing bytes contained in the argument.\n\nIf the argument is omitted or None, " ++
    "strip trailing ASCII whitespace."⟩,
  ⟨"split", .method,
    "Return a list of the sections in the bytearray, using sep as the delimiter.\n\n  sep\n  " ++
    "  The delimiter according which to split the bytearray.\n    None (the default value) " ++
    "means split on ASCII whitespace characters\n    (space, tab, return, newline, formfeed, " ++
    "vertical tab).\n  maxsplit\n    Maximum number of splits to do.\n    -1 (the default " ++
    "value) means no limit."⟩,
  ⟨"splitlines", .method,
    "Return a list of the lines in the bytearray, breaking at line boundaries.\n\nLine " ++
    "breaks are not included in the resulting list unless keepends is given and\ntrue."⟩,
  ⟨"startswith", .method,
    "B.startswith(prefix[, start[, end]]) -> bool\n\nReturn True if B starts with the " ++
    "specified prefix, False otherwise.\nWith optional start, test B beginning at that " ++
    "position.\nWith optional end, stop comparing B at that position.\nprefix can also be a " ++
    "tuple of bytes to try."⟩,
  ⟨"strip", .method,
    "Strip leading and trailing bytes contained in the argument.\n\nIf the argument is " ++
    "omitted or None, strip leading and trailing ASCII whitespace."⟩,
  ⟨"swapcase", .method,
    "B.swapcase() -> copy of B\n\nReturn a copy of B with uppercase ASCII characters " ++
    "converted\nto lowercase ASCII and vice versa."⟩,
  ⟨"title", .method,
    "B.title() -> copy of B\n\nReturn a titlecased version of B, i.e. ASCII words start with " ++
    "uppercase\ncharacters, all remaining cased characters have lowercase."⟩,
  ⟨"translate", .method,
    "Return a copy with each character mapped by the given translation table.\n\n  table\n   " ++
    " Translation table, which must be a bytes object of length 256.\n\nAll characters " ++
    "occurring in the optional argument delete are removed.\nThe remaining characters are " ++
    "mapped through the given translation table."⟩,
  ⟨"upper", .method,
    "B.upper() -> copy of B\n\nReturn a copy of B with all ASCII characters converted to " ++
    "uppercase."⟩,
  ⟨"zfill", .method,
    "Pad a numeric string with zeros on the left, to fill a field of the given width.\n\nThe " ++
    "original string is never truncated."⟩,
  ⟨"__hash__", .value, ""⟩]

def memoryviewMembers : List Member := [
  ⟨"__new__", .staticMethod,
    "Create and return a new object.  See help(type) for accurate signature."⟩,
  ⟨"__repr__", .method, "Return repr(self)."⟩,
  ⟨"__hash__", .method, "Return hash(self)."⟩,
  ⟨"__getattribute__", .method, "Return getattr(self, name)."⟩,
  ⟨"__lt__", .method, "Return self<value."⟩,
  ⟨"__le__", .method, "Return self<=value."⟩,
  ⟨"__eq__", .method, "Return self==value."⟩,
  ⟨"__ne__", .method, "Return self!=value."⟩,
  ⟨"__gt__", .method, "Return self>value."⟩,
  ⟨"__ge__", .method, "Return self>=value."⟩,
  ⟨"__iter__", .method, "Implement iter(self)."⟩,
  ⟨"__len__", .method, "Return len(self)."⟩,
  ⟨"__getitem__", .method, "Return self[key]."⟩,
  ⟨"__setitem__", .method, "Set self[key] to value."⟩,
  ⟨"__delitem__", .method, "Delete self[key]."⟩,
  ⟨"release", .method, "Release the underlying buffer exposed by the memoryview object."⟩,
  ⟨"tobytes", .method,
    "Return the data in the buffer as a byte string.\n\nOrder can be \x7b'C', 'F', 'A'\x7d. " ++
    "When order is 'C' or 'F', the data of the\noriginal array is converted to C or Fortran " ++
    "order. For contiguous views,\n'A' returns an exact copy of the physical memory. In " ++
    "particular, in-memory\nFortran order is preserved. For non-contiguous views, the data " ++
    "is converted\nto C first. order=None is the same as order='C'."⟩,
  ⟨"hex", .method,
    "Return the data in the buffer as a str of hexadecimal numbers.\n\n  sep\n    An " ++
    "optional single character or byte to separate hex bytes.\n  bytes_per_sep\n    How many " ++
    "bytes between separators.  Positive values count from the\n    right, negative values " ++
    "count from the left.\n\nExample:\n>>> value = memoryview(b'\\xb9\\x01\\xef')\n>>> " ++
    "value.hex()\n'b901ef'\n>>> value.hex(':')\n'b9:01:ef'\n>>> value.hex(':', " ++
    "2)\n'b9:01ef'\n>>> value.hex(':', -2)\n'b901:ef'"⟩,
  ⟨"tolist", .method, "Return the data in the buffer as a list of elements."⟩,
  ⟨"cast", .method, "Cast a memoryview to a new format or shape."⟩,
  ⟨"toreadonly", .method, "Return a readonly version of the memoryview."⟩,
  ⟨"__enter__", .method, ""⟩,
  ⟨"__exit__", .method, ""⟩,
  ⟨"obj", .field, "The underlying object of the memoryview."⟩,
  ⟨"nbytes", .field,
    "The amount of space in bytes that the array would use in\n a contiguous representation."⟩,
  ⟨"readonly", .field, "A bool indicating whether the memory is read only."⟩,
  ⟨"itemsize", .field, "The size in bytes of each element of the memoryview."⟩,
  ⟨"format", .field,
    "A string containing the format (in struct module style)\n for each element in the view."⟩,
  ⟨"ndim", .field,
    "An integer indicating how many dimensions of a multi-dimensional\n array the memory " ++
    "represents."⟩,
  ⟨"shape", .field,
    "A tuple of ndim integers giving the shape of the memory\n as an N-dimensional array."⟩,
  ⟨"strides", .field,
    "A tuple of ndim integers giving the size in bytes to access\n each element for each " ++
    "dimension of the array."⟩,
  ⟨"suboffsets", .field, "A tuple of integers used internally for PIL-style arrays."⟩,
  ⟨"c_contiguous", .field, "A bool indicating whether the memory is C contiguous."⟩,
  ⟨"f_contiguous", .field, "A bool indicating whether the memory is Fortran contiguous."⟩,
  ⟨"contiguous", .field, "A bool indicating whether the memory is contiguous."⟩]

/-- The classes of numbers, texts and bytes. -/
def scalarClasses : List ClassInfo := [
  ⟨"int", ["object"],
    "int([x]) -> integer\nint(x, base=10) -> integer\n\nConvert a number or string to an " ++
    "integer, or return 0 if no arguments\nare given.  If x is a number, return x.__int__(). " ++
    " For floating point\nnumbers, this truncates towards zero.\n\nIf x is not a number or " ++
    "if base is given, then x must be a string,\nbytes, or bytearray instance representing " ++
    "an integer literal in the\ngiven base.  The literal can be preceded by '+' or '-' and " ++
    "be surrounded\nby whitespace.  The base defaults to 10.  Valid bases are 0 and " ++
    "2-36.\nBase 0 means to interpret the base from the string as an integer literal.\n>>> " ++
    "int('0b100', base=0)\n4", integerMembers⟩,
  ⟨"bool", ["int"],
    "bool(x) -> bool\n\nReturns True when the argument x is true, False otherwise.\nThe " ++
    "builtins True and False are the only two instances of the class bool.\nThe class bool " ++
    "is a subclass of the class int, and cannot be subclassed.", boolMembers⟩,
  ⟨"float", ["object"],
    "Convert a string or number to a floating point number, if possible.", realMembers⟩,
  ⟨"complex", ["object"],
    "Create a complex number from a real part and an optional imaginary part.\n\nThis is " ++
    "equivalent to (real + imag*1j) where imag defaults to 0.", complexMembers⟩,
  ⟨"str", ["object"],
    "str(object='') -> str\nstr(bytes_or_buffer[, encoding[, errors]]) -> str\n\nCreate a " ++
    "new string object from the given object. If encoding or\nerrors is specified, then the " ++
    "object must expose a data buffer\nthat will be decoded using the given encoding and " ++
    "error handler.\nOtherwise, returns the result of object.__str__() (if defined)\nor " ++
    "repr(object).\nencoding defaults to sys.getdefaultencoding().\nerrors defaults to " ++
    "'strict'.", textMembers⟩,
  ⟨"bytes", ["object"],
    "bytes(iterable_of_ints) -> bytes\nbytes(string, encoding[, errors]) -> " ++
    "bytes\nbytes(bytes_or_buffer) -> immutable copy of bytes_or_buffer\nbytes(int) -> bytes " ++
    "object of size given by the parameter initialized with null bytes\nbytes() -> empty " ++
    "bytes object\n\nConstruct an immutable array of bytes from:\n  - an iterable yielding " ++
    "integers in range(256)\n  - a text string encoded using the specified encoding\n  - any " ++
    "object implementing the buffer API.\n  - an integer", bytesMembers⟩,
  ⟨"bytearray", ["object"],
    "bytearray(iterable_of_ints) -> bytearray\nbytearray(string, encoding[, errors]) -> " ++
    "bytearray\nbytearray(bytes_or_buffer) -> mutable copy of " ++
    "bytes_or_buffer\nbytearray(int) -> bytes array of size given by the parameter " ++
    "initialized with null bytes\nbytearray() -> empty bytes array\n\nConstruct a mutable " ++
    "bytearray object from:\n  - an iterable yielding integers in range(256)\n  - a text " ++
    "string encoded using the specified encoding\n  - a bytes or a buffer object\n  - any " ++
    "object implementing the buffer API.\n  - an integer", bytearrayMembers⟩,
  ⟨"memoryview", ["object"],
    "Create a new memoryview object which references the given object.", memoryviewMembers⟩]

end RouteDocs.Module.Library
