import Tint.Builtin.Patterns

/-!
# Python

Words and rules of Python.
-/

namespace Tint.Builtin

namespace Python

/-- Words with a meaning of their own. -/
def keywords : List String :=
  ["and", "as", "assert", "async", "await", "break", "class", "continue", "def", "del", "elif",
   "else", "except", "finally", "for", "from", "global", "if", "import", "in", "is", "lambda",
   "nonlocal", "not", "or", "pass", "raise", "return", "try", "while", "with", "yield", "None",
   "True", "False"]

/-- Names that are there without an import. -/
def builtins : List String :=
  ["abs", "all", "any", "ascii", "bin", "bool", "breakpoint", "bytearray", "bytes", "callable",
   "chr", "classmethod", "compile", "complex", "delattr", "dict", "dir", "divmod", "enumerate",
   "eval", "exec", "filter", "float", "format", "frozenset", "getattr", "globals", "hasattr",
   "hash", "help", "hex", "id", "input", "int", "isinstance", "issubclass", "iter", "len", "list",
   "locals", "map", "max", "memoryview", "min", "next", "object", "oct", "open", "ord", "pow",
   "print", "property", "range", "repr", "reversed", "round", "set", "setattr", "slice", "sorted",
   "staticmethod", "str", "sum", "super", "tuple", "type", "vars", "zip"]

/-- Strings; those between three quotes come first, so that their quotes are not read as an empty
string. -/
def strings : String :=
  "'''[\\s\\S]*?'''|\"\"\"[\\s\\S]*?\"\"\"|" ++ quotedString

end Python

open Python in
/-- The language Python. -/
def python : Language :=
  language "python" ["py"]
    [ rule .keywords (words keywords),
      rule .builtins (words builtins),
      contextRule .functions calledName,
      rule .strings strings,
      lineRule .comments "#.*$",
      rule .numbers "\\b\\d+\\.?\\d*([eE][+-]?\\d+)?\\b",
      rule .decorators "@\\w+" ]

end Tint.Builtin
