import BuildBench.Inspection.Class

/-!
# The classes of texts and bytes

What is known about the classes of texts and of bytes: their operations, in the words in which they
describe themselves.
-/

namespace BuildBench.Inspection

/-- The class of texts. -/
def textClass : ClassInfo where
  name := "str"
  above := ["object"]
  doc := some ("str(object='') -> str\nstr(bytes_or_buffer[, encoding[, errors]]) -> " ++
    "str\n\nCreate a new string object from the given object. If encoding or\nerrors " ++
    "is specified, then the object must expose a data buffer\nthat will be decoded " ++
    "using the given encoding and error handler.\nOtherwise, returns the result of " ++
    "object.__str__() (if defined)\nor repr(object).\nencoding defaults to " ++
    "sys.getdefaultencoding().\nerrors defaults to 'strict'.")
  sizes := ⟨80, 0, 273159424, 0, 0⟩
  operations := [
    ⟨"__new__", .maker, some ("Create and return a new object.  See help(type) for " ++
      "accurate signature."),
      some "($type, *args, **kwargs)"⟩,
    ⟨"__repr__", .slot, some "Return repr(self).", some "($self, /)"⟩,
    ⟨"__hash__", .slot, some "Return hash(self).", some "($self, /)"⟩,
    ⟨"__str__", .slot, some "Return str(self).", some "($self, /)"⟩,
    ⟨"__getattribute__", .slot, some "Return getattr(self, name).", some "($self, name, /)"⟩,
    ⟨"__lt__", .slot, some "Return self<value.", some "($self, value, /)"⟩,
    ⟨"__le__", .slot, some "Return self<=value.", some "($self, value, /)"⟩,
    ⟨"__eq__", .slot, some "Return self==value.", some "($self, value, /)"⟩,
    ⟨"__ne__", .slot, some "Return self!=value.", some "($self, value, /)"⟩,
    ⟨"__gt__", .slot, some "Return self>value.", some "($self, value, /)"⟩,
    ⟨"__ge__", .slot, some "Return self>=value.", some "($self, value, /)"⟩,
    ⟨"__iter__", .slot, some "Implement iter(self).", some "($self, /)"⟩,
    ⟨"__mod__", .slot, some "Return self%value.", some "($self, value, /)"⟩,
    ⟨"__rmod__", .slot, some "Return value%self.", some "($self, value, /)"⟩,
    ⟨"__len__", .slot, some "Return len(self).", some "($self, /)"⟩,
    ⟨"__getitem__", .slot, some "Return self[key].", some "($self, key, /)"⟩,
    ⟨"__add__", .slot, some "Return self+value.", some "($self, value, /)"⟩,
    ⟨"__mul__", .slot, some "Return self*value.", some "($self, value, /)"⟩,
    ⟨"__rmul__", .slot, some "Return value*self.", some "($self, value, /)"⟩,
    ⟨"__contains__", .slot, some "Return key in self.", some "($self, key, /)"⟩,
    ⟨"encode", .method, some ("Encode the string using the codec registered for " ++
      "encoding.\n\n  encoding\n    The encoding in which to encode the string.\n  " ++
      "errors\n    The error handling scheme to use for encoding errors.\n    The " ++
      "default is 'strict' meaning that encoding errors raise a\n    " ++
      "UnicodeEncodeError.  Other possible values are 'ignore', 'replace' and\n    " ++
      "'xmlcharrefreplace' as well as any other name registered with\n    " ++
      "codecs.register_error that can handle UnicodeEncodeErrors."),
      some "($self, /, encoding='utf-8', errors='strict')"⟩,
    ⟨"replace", .method, some ("Return a copy with all occurrences of substring old " ++
      "replaced by new.\n\n  count\n    Maximum number of occurrences to replace.\n  " ++
      "  -1 (the default value) means replace all occurrences.\n\nIf the optional " ++
      "argument count is given, only the first count occurrences are\nreplaced."),
      some "($self, old, new, count=-1, /)"⟩,
    ⟨"split", .method, some ("Return a list of the substrings in the string, using sep " ++
      "as the separator string.\n\n  sep\n    The separator used to split the " ++
      "string.\n\n    When set to None (the default value), will split on any " ++
      "whitespace\n    character (including \\n \\r \\t \\f and spaces) and will " ++
      "discard\n    empty strings from the result.\n  maxsplit\n    Maximum number " ++
      "of splits.\n    -1 (the default value) means no limit.\n\nSplitting starts at " ++
      "the front of the string and works to the end.\n\nNote, str.split() is mainly " ++
      "useful for data that has been intentionally\ndelimited.  With natural text " ++
      "that includes punctuation, consider using\nthe regular expression module."),
      some "($self, /, sep=None, maxsplit=-1)"⟩,
    ⟨"rsplit", .method, some ("Return a list of the substrings in the string, using sep " ++
      "as the separator string.\n\n  sep\n    The separator used to split the " ++
      "string.\n\n    When set to None (the default value), will split on any " ++
      "whitespace\n    character (including \\n \\r \\t \\f and spaces) and will " ++
      "discard\n    empty strings from the result.\n  maxsplit\n    Maximum number " ++
      "of splits.\n    -1 (the default value) means no limit.\n\nSplitting starts at " ++
      "the end of the string and works to the front."),
      some "($self, /, sep=None, maxsplit=-1)"⟩,
    ⟨"join", .method, some ("Concatenate any number of strings.\n\nThe string whose " ++
      "method is called is inserted in between each given string.\nThe result is " ++
      "returned as a new string.\n\nExample: '.'.join(['ab', 'pq', 'rs']) -> " ++
      "'ab.pq.rs'"),
      some "($self, iterable, /)"⟩,
    ⟨"capitalize", .method, some ("Return a capitalized version of the string.\n\nMore " ++
      "specifically, make the first character have upper case and the rest " ++
      "lower\ncase."),
      some "($self, /)"⟩,
    ⟨"casefold", .method, some ("Return a version of the string suitable for caseless " ++
      "comparisons."),
      some "($self, /)"⟩,
    ⟨"title", .method, some ("Return a version of the string where each word is " ++
      "titlecased.\n\nMore specifically, words start with uppercased characters and " ++
      "all remaining\ncased characters have lower case."),
      some "($self, /)"⟩,
    ⟨"center", .method, some ("Return a centered string of length width.\n\nPadding is " ++
      "done using the specified fill character (default is a space)."),
      some "($self, width, fillchar=' ', /)"⟩,
    ⟨"count", .method, some ("S.count(sub[, start[, end]]) -> int\n\nReturn the number " ++
      "of non-overlapping occurrences of substring sub in\nstring S[start:end].  " ++
      "Optional arguments start and end are\ninterpreted as in slice notation."),
      none⟩,
    ⟨"expandtabs", .method, some ("Return a copy where all tab characters are expanded " ++
      "using spaces.\n\nIf tabsize is not given, a tab size of 8 characters is " ++
      "assumed."),
      some "($self, /, tabsize=8)"⟩,
    ⟨"find", .method, some ("S.find(sub[, start[, end]]) -> int\n\nReturn the lowest " ++
      "index in S where substring sub is found,\nsuch that sub is contained within " ++
      "S[start:end].  Optional\narguments start and end are interpreted as in slice " ++
      "notation.\n\nReturn -1 on failure."),
      none⟩,
    ⟨"partition", .method, some ("Partition the string into three parts using the given " ++
      "separator.\n\nThis will search for the separator in the string.  If the " ++
      "separator is found,\nreturns a 3-tuple containing the part before the " ++
      "separator, the separator\nitself, and the part after it.\n\nIf the separator " ++
      "is not found, returns a 3-tuple containing the original string\nand two empty " ++
      "strings."),
      some "($self, sep, /)"⟩,
    ⟨"index", .method, some ("S.index(sub[, start[, end]]) -> int\n\nReturn the lowest " ++
      "index in S where substring sub is found,\nsuch that sub is contained within " ++
      "S[start:end].  Optional\narguments start and end are interpreted as in slice " ++
      "notation.\n\nRaises ValueError when the substring is not found."),
      none⟩,
    ⟨"ljust", .method, some ("Return a left-justified string of length width.\n\nPadding " ++
      "is done using the specified fill character (default is a space)."),
      some "($self, width, fillchar=' ', /)"⟩,
    ⟨"lower", .method, some "Return a copy of the string converted to lowercase.",
      some "($self, /)"⟩,
    ⟨"lstrip", .method, some ("Return a copy of the string with leading whitespace " ++
      "removed.\n\nIf chars is given and not None, remove characters in chars " ++
      "instead."),
      some "($self, chars=None, /)"⟩,
    ⟨"rfind", .method, some ("S.rfind(sub[, start[, end]]) -> int\n\nReturn the highest " ++
      "index in S where substring sub is found,\nsuch that sub is contained within " ++
      "S[start:end].  Optional\narguments start and end are interpreted as in slice " ++
      "notation.\n\nReturn -1 on failure."),
      none⟩,
    ⟨"rindex", .method, some ("S.rindex(sub[, start[, end]]) -> int\n\nReturn the " ++
      "highest index in S where substring sub is found,\nsuch that sub is contained " ++
      "within S[start:end].  Optional\narguments start and end are interpreted as in " ++
      "slice notation.\n\nRaises ValueError when the substring is not found."),
      none⟩,
    ⟨"rjust", .method, some ("Return a right-justified string of length " ++
      "width.\n\nPadding is done using the specified fill character (default is a " ++
      "space)."),
      some "($self, width, fillchar=' ', /)"⟩,
    ⟨"rstrip", .method, some ("Return a copy of the string with trailing whitespace " ++
      "removed.\n\nIf chars is given and not None, remove characters in chars " ++
      "instead."),
      some "($self, chars=None, /)"⟩,
    ⟨"rpartition", .method, some ("Partition the string into three parts using the given " ++
      "separator.\n\nThis will search for the separator in the string, starting at " ++
      "the end. If\nthe separator is found, returns a 3-tuple containing the part " ++
      "before the\nseparator, the separator itself, and the part after it.\n\nIf the " ++
      "separator is not found, returns a 3-tuple containing two empty strings\nand " ++
      "the original string."),
      some "($self, sep, /)"⟩,
    ⟨"splitlines", .method, some ("Return a list of the lines in the string, breaking at " ++
      "line boundaries.\n\nLine breaks are not included in the resulting list unless " ++
      "keepends is given and\ntrue."),
      some "($self, /, keepends=False)"⟩,
    ⟨"strip", .method, some ("Return a copy of the string with leading and trailing " ++
      "whitespace removed.\n\nIf chars is given and not None, remove characters in " ++
      "chars instead."),
      some "($self, chars=None, /)"⟩,
    ⟨"swapcase", .method, some ("Convert uppercase characters to lowercase and lowercase " ++
      "characters to uppercase."),
      some "($self, /)"⟩,
    ⟨"translate", .method, some ("Replace each character in the string using the given " ++
      "translation table.\n\n  table\n    Translation table, which must be a mapping " ++
      "of Unicode ordinals to\n    Unicode ordinals, strings, or None.\n\nThe table " ++
      "must implement lookup/indexing via __getitem__, for instance a\ndictionary or " ++
      "list.  If this operation raises LookupError, the character is\nleft " ++
      "untouched.  Characters mapped to None are deleted."),
      some "($self, table, /)"⟩,
    ⟨"upper", .method, some "Return a copy of the string converted to uppercase.",
      some "($self, /)"⟩,
    ⟨"startswith", .method, some ("S.startswith(prefix[, start[, end]]) -> " ++
      "bool\n\nReturn True if S starts with the specified prefix, False " ++
      "otherwise.\nWith optional start, test S beginning at that position.\nWith " ++
      "optional end, stop comparing S at that position.\nprefix can also be a tuple " ++
      "of strings to try."),
      none⟩,
    ⟨"endswith", .method, some ("S.endswith(suffix[, start[, end]]) -> bool\n\nReturn " ++
      "True if S ends with the specified suffix, False otherwise.\nWith optional " ++
      "start, test S beginning at that position.\nWith optional end, stop comparing " ++
      "S at that position.\nsuffix can also be a tuple of strings to try."),
      none⟩,
    ⟨"removeprefix", .method, some ("Return a str with the given prefix string removed " ++
      "if present.\n\nIf the string starts with the prefix string, return " ++
      "string[len(prefix):].\nOtherwise, return a copy of the original string."),
      some "($self, prefix, /)"⟩,
    ⟨"removesuffix", .method, some ("Return a str with the given suffix string removed " ++
      "if present.\n\nIf the string ends with the suffix string and that suffix is " ++
      "not empty,\nreturn string[:-len(suffix)]. Otherwise, return a copy of the " ++
      "original\nstring."),
      some "($self, suffix, /)"⟩,
    ⟨"isascii", .method, some ("Return True if all characters in the string are ASCII, " ++
      "False otherwise.\n\nASCII characters have code points in the range " ++
      "U+0000-U+007F.\nEmpty string is ASCII too."),
      some "($self, /)"⟩,
    ⟨"islower", .method, some ("Return True if the string is a lowercase string, False " ++
      "otherwise.\n\nA string is lowercase if all cased characters in the string are " ++
      "lowercase and\nthere is at least one cased character in the string."),
      some "($self, /)"⟩,
    ⟨"isupper", .method, some ("Return True if the string is an uppercase string, False " ++
      "otherwise.\n\nA string is uppercase if all cased characters in the string are " ++
      "uppercase and\nthere is at least one cased character in the string."),
      some "($self, /)"⟩,
    ⟨"istitle", .method, some ("Return True if the string is a title-cased string, False " ++
      "otherwise.\n\nIn a title-cased string, upper- and title-case characters may " ++
      "only\nfollow uncased characters and lowercase characters only cased ones."),
      some "($self, /)"⟩,
    ⟨"isspace", .method, some ("Return True if the string is a whitespace string, False " ++
      "otherwise.\n\nA string is whitespace if all characters in the string are " ++
      "whitespace and there\nis at least one character in the string."),
      some "($self, /)"⟩,
    ⟨"isdecimal", .method, some ("Return True if the string is a decimal string, False " ++
      "otherwise.\n\nA string is a decimal string if all characters in the string " ++
      "are decimal and\nthere is at least one character in the string."),
      some "($self, /)"⟩,
    ⟨"isdigit", .method, some ("Return True if the string is a digit string, False " ++
      "otherwise.\n\nA string is a digit string if all characters in the string are " ++
      "digits and there\nis at least one character in the string."),
      some "($self, /)"⟩,
    ⟨"isnumeric", .method, some ("Return True if the string is a numeric string, False " ++
      "otherwise.\n\nA string is numeric if all characters in the string are numeric " ++
      "and there is at\nleast one character in the string."),
      some "($self, /)"⟩,
    ⟨"isalpha", .method, some ("Return True if the string is an alphabetic string, False " ++
      "otherwise.\n\nA string is alphabetic if all characters in the string are " ++
      "alphabetic and there\nis at least one character in the string."),
      some "($self, /)"⟩,
    ⟨"isalnum", .method, some ("Return True if the string is an alpha-numeric string, " ++
      "False otherwise.\n\nA string is alpha-numeric if all characters in the string " ++
      "are alpha-numeric and\nthere is at least one character in the string."),
      some "($self, /)"⟩,
    ⟨"isidentifier", .method, some ("Return True if the string is a valid Python " ++
      "identifier, False otherwise.\n\nCall keyword.iskeyword(s) to test whether " ++
      "string s is a reserved identifier,\nsuch as \"def\" or \"class\"."),
      some "($self, /)"⟩,
    ⟨"isprintable", .method, some ("Return True if the string is printable, False " ++
      "otherwise.\n\nA string is printable if all of its characters are considered " ++
      "printable in\nrepr() or if it is empty."),
      some "($self, /)"⟩,
    ⟨"zfill", .method, some ("Pad a numeric string with zeros on the left, to fill a " ++
      "field of the given width.\n\nThe string is never truncated."),
      some "($self, width, /)"⟩,
    ⟨"format", .method, some ("S.format(*args, **kwargs) -> str\n\nReturn a formatted " ++
      "version of S, using substitutions from args and kwargs.\nThe substitutions " ++
      "are identified by braces ('\x7b' and '\x7d')."),
      none⟩,
    ⟨"format_map", .method, some ("S.format_map(mapping) -> str\n\nReturn a formatted " ++
      "version of S, using substitutions from mapping.\nThe substitutions are " ++
      "identified by braces ('\x7b' and '\x7d')."),
      none⟩,
    ⟨"__format__", .method, some ("Return a formatted version of the string as described " ++
      "by format_spec."),
      some "($self, format_spec, /)"⟩,
    ⟨"maketrans", .function, some ("Return a translation table usable for " ++
      "str.translate().\n\nIf there is only one argument, it must be a dictionary " ++
      "mapping Unicode\nordinals (integers) or characters to Unicode ordinals, " ++
      "strings or None.\nCharacter keys will be then converted to ordinals.\nIf " ++
      "there are two arguments, they must be strings of equal length, and\nin the " ++
      "resulting dictionary, each character in x will be mapped to the\ncharacter at " ++
      "the same position in y. If there is a third argument, it\nmust be a string, " ++
      "whose characters will be mapped to None in the result."),
      some "(x, y=<unrepresentable>, z=<unrepresentable>, /)"⟩,
    ⟨"__sizeof__", .method, some "Return the size of the string in memory, in bytes.",
      some "($self, /)"⟩,
    ⟨"__getnewargs__", .method, none, none⟩]

/-- The class of bytes. -/
def bytesClass : ClassInfo where
  name := "bytes"
  above := ["object"]
  doc := some ("bytes(iterable_of_ints) -> bytes\nbytes(string, encoding[, errors]) -> " ++
    "bytes\nbytes(bytes_or_buffer) -> immutable copy of bytes_or_buffer\nbytes(int) " ++
    "-> bytes object of size given by the parameter initialized with null " ++
    "bytes\nbytes() -> empty bytes object\n\nConstruct an immutable array of bytes " ++
    "from:\n  - an iterable yielding integers in range(256)\n  - a text string " ++
    "encoded using the specified encoding\n  - any object implementing the buffer " ++
    "API.\n  - an integer")
  sizes := ⟨33, 1, 138941696, 0, 0⟩
  operations := [
    ⟨"__new__", .maker, some ("Create and return a new object.  See help(type) for " ++
      "accurate signature."),
      some "($type, *args, **kwargs)"⟩,
    ⟨"__repr__", .slot, some "Return repr(self).", some "($self, /)"⟩,
    ⟨"__hash__", .slot, some "Return hash(self).", some "($self, /)"⟩,
    ⟨"__str__", .slot, some "Return str(self).", some "($self, /)"⟩,
    ⟨"__getattribute__", .slot, some "Return getattr(self, name).", some "($self, name, /)"⟩,
    ⟨"__lt__", .slot, some "Return self<value.", some "($self, value, /)"⟩,
    ⟨"__le__", .slot, some "Return self<=value.", some "($self, value, /)"⟩,
    ⟨"__eq__", .slot, some "Return self==value.", some "($self, value, /)"⟩,
    ⟨"__ne__", .slot, some "Return self!=value.", some "($self, value, /)"⟩,
    ⟨"__gt__", .slot, some "Return self>value.", some "($self, value, /)"⟩,
    ⟨"__ge__", .slot, some "Return self>=value.", some "($self, value, /)"⟩,
    ⟨"__iter__", .slot, some "Implement iter(self).", some "($self, /)"⟩,
    ⟨"__mod__", .slot, some "Return self%value.", some "($self, value, /)"⟩,
    ⟨"__rmod__", .slot, some "Return value%self.", some "($self, value, /)"⟩,
    ⟨"__len__", .slot, some "Return len(self).", some "($self, /)"⟩,
    ⟨"__getitem__", .slot, some "Return self[key].", some "($self, key, /)"⟩,
    ⟨"__add__", .slot, some "Return self+value.", some "($self, value, /)"⟩,
    ⟨"__mul__", .slot, some "Return self*value.", some "($self, value, /)"⟩,
    ⟨"__rmul__", .slot, some "Return value*self.", some "($self, value, /)"⟩,
    ⟨"__contains__", .slot, some "Return key in self.", some "($self, key, /)"⟩,
    ⟨"__getnewargs__", .method, none, none⟩,
    ⟨"__bytes__", .method, some "Convert this value to exact type bytes.", some "($self, /)"⟩,
    ⟨"capitalize", .method, some ("B.capitalize() -> copy of B\n\nReturn a copy of B " ++
      "with only its first character capitalized (ASCII)\nand the rest lower-cased."),
      none⟩,
    ⟨"center", .method, some ("Return a centered string of length width.\n\nPadding is " ++
      "done using the specified fill character."),
      some "($self, width, fillchar=b' ', /)"⟩,
    ⟨"count", .method, some ("B.count(sub[, start[, end]]) -> int\n\nReturn the number " ++
      "of non-overlapping occurrences of subsection sub in\nbytes B[start:end].  " ++
      "Optional arguments start and end are interpreted\nas in slice notation."),
      none⟩,
    ⟨"decode", .method, some ("Decode the bytes using the codec registered for " ++
      "encoding.\n\n  encoding\n    The encoding with which to decode the bytes.\n  " ++
      "errors\n    The error handling scheme to use for the handling of decoding " ++
      "errors.\n    The default is 'strict' meaning that decoding errors raise a\n   " ++
      " UnicodeDecodeError. Other possible values are 'ignore' and 'replace'\n    as " ++
      "well as any other name registered with codecs.register_error that\n    can " ++
      "handle UnicodeDecodeErrors."),
      some "($self, /, encoding='utf-8', errors='strict')"⟩,
    ⟨"endswith", .method, some ("B.endswith(suffix[, start[, end]]) -> bool\n\nReturn " ++
      "True if B ends with the specified suffix, False otherwise.\nWith optional " ++
      "start, test B beginning at that position.\nWith optional end, stop comparing " ++
      "B at that position.\nsuffix can also be a tuple of bytes to try."),
      none⟩,
    ⟨"expandtabs", .method, some ("Return a copy where all tab characters are expanded " ++
      "using spaces.\n\nIf tabsize is not given, a tab size of 8 characters is " ++
      "assumed."),
      some "($self, /, tabsize=8)"⟩,
    ⟨"find", .method, some ("B.find(sub[, start[, end]]) -> int\n\nReturn the lowest " ++
      "index in B where subsection sub is found,\nsuch that sub is contained within " ++
      "B[start,end].  Optional\narguments start and end are interpreted as in slice " ++
      "notation.\n\nReturn -1 on failure."),
      none⟩,
    ⟨"fromhex", .classMethod, some ("Create a bytes object from a string of hexadecimal " ++
      "numbers.\n\nSpaces between two numbers are accepted.\nExample: " ++
      "bytes.fromhex('B9 01EF') -> b'\\\\xb9\\\\x01\\\\xef'."),
      some "($type, string, /)"⟩,
    ⟨"hex", .method, some ("Create a string of hexadecimal numbers from a bytes " ++
      "object.\n\n  sep\n    An optional single character or byte to separate hex " ++
      "bytes.\n  bytes_per_sep\n    How many bytes between separators.  Positive " ++
      "values count from the\n    right, negative values count from the " ++
      "left.\n\nExample:\n>>> value = b'\\xb9\\x01\\xef'\n>>> " ++
      "value.hex()\n'b901ef'\n>>> value.hex(':')\n'b9:01:ef'\n>>> value.hex(':', " ++
      "2)\n'b9:01ef'\n>>> value.hex(':', -2)\n'b901:ef'"),
      some "($self, /, sep=<unrepresentable>, bytes_per_sep=1)"⟩,
    ⟨"index", .method, some ("B.index(sub[, start[, end]]) -> int\n\nReturn the lowest " ++
      "index in B where subsection sub is found,\nsuch that sub is contained within " ++
      "B[start,end].  Optional\narguments start and end are interpreted as in slice " ++
      "notation.\n\nRaises ValueError when the subsection is not found."),
      none⟩,
    ⟨"isalnum", .method, some ("B.isalnum() -> bool\n\nReturn True if all characters in " ++
      "B are alphanumeric\nand there is at least one character in B, False otherwise."),
      none⟩,
    ⟨"isalpha", .method, some ("B.isalpha() -> bool\n\nReturn True if all characters in " ++
      "B are alphabetic\nand there is at least one character in B, False otherwise."),
      none⟩,
    ⟨"isascii", .method, some ("B.isascii() -> bool\n\nReturn True if B is empty or all " ++
      "characters in B are ASCII,\nFalse otherwise."),
      none⟩,
    ⟨"isdigit", .method, some ("B.isdigit() -> bool\n\nReturn True if all characters in " ++
      "B are digits\nand there is at least one character in B, False otherwise."),
      none⟩,
    ⟨"islower", .method, some ("B.islower() -> bool\n\nReturn True if all cased " ++
      "characters in B are lowercase and there is\nat least one cased character in " ++
      "B, False otherwise."),
      none⟩,
    ⟨"isspace", .method, some ("B.isspace() -> bool\n\nReturn True if all characters in " ++
      "B are whitespace\nand there is at least one character in B, False otherwise."),
      none⟩,
    ⟨"istitle", .method, some ("B.istitle() -> bool\n\nReturn True if B is a titlecased " ++
      "string and there is at least one\ncharacter in B, i.e. uppercase characters " ++
      "may only follow uncased\ncharacters and lowercase characters only cased ones. " ++
      "Return False\notherwise."),
      none⟩,
    ⟨"isupper", .method, some ("B.isupper() -> bool\n\nReturn True if all cased " ++
      "characters in B are uppercase and there is\nat least one cased character in " ++
      "B, False otherwise."),
      none⟩,
    ⟨"join", .method, some ("Concatenate any number of bytes objects.\n\nThe bytes whose " ++
      "method is called is inserted in between each pair.\n\nThe result is returned " ++
      "as a new bytes object.\n\nExample: b'.'.join([b'ab', b'pq', b'rs']) -> " ++
      "b'ab.pq.rs'."),
      some "($self, iterable_of_bytes, /)"⟩,
    ⟨"ljust", .method, some ("Return a left-justified string of length width.\n\nPadding " ++
      "is done using the specified fill character."),
      some "($self, width, fillchar=b' ', /)"⟩,
    ⟨"lower", .method, some ("B.lower() -> copy of B\n\nReturn a copy of B with all " ++
      "ASCII characters converted to lowercase."),
      none⟩,
    ⟨"lstrip", .method, some ("Strip leading bytes contained in the argument.\n\nIf the " ++
      "argument is omitted or None, strip leading  ASCII whitespace."),
      some "($self, bytes=None, /)"⟩,
    ⟨"maketrans", .function, some ("Return a translation table useable for the bytes or " ++
      "bytearray translate method.\n\nThe returned table will be one where each byte " ++
      "in frm is mapped to the byte at\nthe same position in to.\n\nThe bytes " ++
      "objects frm and to must be of the same length."),
      some "(frm, to, /)"⟩,
    ⟨"partition", .method, some ("Partition the bytes into three parts using the given " ++
      "separator.\n\nThis will search for the separator sep in the bytes. If the " ++
      "separator is found,\nreturns a 3-tuple containing the part before the " ++
      "separator, the separator\nitself, and the part after it.\n\nIf the separator " ++
      "is not found, returns a 3-tuple containing the original bytes\nobject and two " ++
      "empty bytes objects."),
      some "($self, sep, /)"⟩,
    ⟨"replace", .method, some ("Return a copy with all occurrences of substring old " ++
      "replaced by new.\n\n  count\n    Maximum number of occurrences to replace.\n  " ++
      "  -1 (the default value) means replace all occurrences.\n\nIf the optional " ++
      "argument count is given, only the first count occurrences are\nreplaced."),
      some "($self, old, new, count=-1, /)"⟩,
    ⟨"removeprefix", .method, some ("Return a bytes object with the given prefix string " ++
      "removed if present.\n\nIf the bytes starts with the prefix string, return " ++
      "bytes[len(prefix):].\nOtherwise, return a copy of the original bytes."),
      some "($self, prefix, /)"⟩,
    ⟨"removesuffix", .method, some ("Return a bytes object with the given suffix string " ++
      "removed if present.\n\nIf the bytes ends with the suffix string and that " ++
      "suffix is not empty,\nreturn bytes[:-len(prefix)].  Otherwise, return a copy " ++
      "of the original\nbytes."),
      some "($self, suffix, /)"⟩,
    ⟨"rfind", .method, some ("B.rfind(sub[, start[, end]]) -> int\n\nReturn the highest " ++
      "index in B where subsection sub is found,\nsuch that sub is contained within " ++
      "B[start,end].  Optional\narguments start and end are interpreted as in slice " ++
      "notation.\n\nReturn -1 on failure."),
      none⟩,
    ⟨"rindex", .method, some ("B.rindex(sub[, start[, end]]) -> int\n\nReturn the " ++
      "highest index in B where subsection sub is found,\nsuch that sub is contained " ++
      "within B[start,end].  Optional\narguments start and end are interpreted as in " ++
      "slice notation.\n\nRaise ValueError when the subsection is not found."),
      none⟩,
    ⟨"rjust", .method, some ("Return a right-justified string of length " ++
      "width.\n\nPadding is done using the specified fill character."),
      some "($self, width, fillchar=b' ', /)"⟩,
    ⟨"rpartition", .method, some ("Partition the bytes into three parts using the given " ++
      "separator.\n\nThis will search for the separator sep in the bytes, starting " ++
      "at the end. If\nthe separator is found, returns a 3-tuple containing the part " ++
      "before the\nseparator, the separator itself, and the part after it.\n\nIf the " ++
      "separator is not found, returns a 3-tuple containing two empty bytes\nobjects " ++
      "and the original bytes object."),
      some "($self, sep, /)"⟩,
    ⟨"rsplit", .method, some ("Return a list of the sections in the bytes, using sep as " ++
      "the delimiter.\n\n  sep\n    The delimiter according which to split the " ++
      "bytes.\n    None (the default value) means split on ASCII whitespace " ++
      "characters\n    (space, tab, return, newline, formfeed, vertical tab).\n  " ++
      "maxsplit\n    Maximum number of splits to do.\n    -1 (the default value) " ++
      "means no limit.\n\nSplitting is done starting at the end of the bytes and " ++
      "working to the front."),
      some "($self, /, sep=None, maxsplit=-1)"⟩,
    ⟨"rstrip", .method, some ("Strip trailing bytes contained in the argument.\n\nIf the " ++
      "argument is omitted or None, strip trailing ASCII whitespace."),
      some "($self, bytes=None, /)"⟩,
    ⟨"split", .method, some ("Return a list of the sections in the bytes, using sep as " ++
      "the delimiter.\n\n  sep\n    The delimiter according which to split the " ++
      "bytes.\n    None (the default value) means split on ASCII whitespace " ++
      "characters\n    (space, tab, return, newline, formfeed, vertical tab).\n  " ++
      "maxsplit\n    Maximum number of splits to do.\n    -1 (the default value) " ++
      "means no limit."),
      some "($self, /, sep=None, maxsplit=-1)"⟩,
    ⟨"splitlines", .method, some ("Return a list of the lines in the bytes, breaking at " ++
      "line boundaries.\n\nLine breaks are not included in the resulting list unless " ++
      "keepends is given and\ntrue."),
      some "($self, /, keepends=False)"⟩,
    ⟨"startswith", .method, some ("B.startswith(prefix[, start[, end]]) -> " ++
      "bool\n\nReturn True if B starts with the specified prefix, False " ++
      "otherwise.\nWith optional start, test B beginning at that position.\nWith " ++
      "optional end, stop comparing B at that position.\nprefix can also be a tuple " ++
      "of bytes to try."),
      none⟩,
    ⟨"strip", .method, some ("Strip leading and trailing bytes contained in the " ++
      "argument.\n\nIf the argument is omitted or None, strip leading and trailing " ++
      "ASCII whitespace."),
      some "($self, bytes=None, /)"⟩,
    ⟨"swapcase", .method, some ("B.swapcase() -> copy of B\n\nReturn a copy of B with " ++
      "uppercase ASCII characters converted\nto lowercase ASCII and vice versa."),
      none⟩,
    ⟨"title", .method, some ("B.title() -> copy of B\n\nReturn a titlecased version of " ++
      "B, i.e. ASCII words start with uppercase\ncharacters, all remaining cased " ++
      "characters have lowercase."),
      none⟩,
    ⟨"translate", .method, some ("Return a copy with each character mapped by the given " ++
      "translation table.\n\n  table\n    Translation table, which must be a bytes " ++
      "object of length 256.\n\nAll characters occurring in the optional argument " ++
      "delete are removed.\nThe remaining characters are mapped through the given " ++
      "translation table."),
      some "($self, table, /, delete=b'')"⟩,
    ⟨"upper", .method, some ("B.upper() -> copy of B\n\nReturn a copy of B with all " ++
      "ASCII characters converted to uppercase."),
      none⟩,
    ⟨"zfill", .method, some ("Pad a numeric string with zeros on the left, to fill a " ++
      "field of the given width.\n\nThe original string is never truncated."),
      some "($self, width, /)"⟩]

end BuildBench.Inspection
