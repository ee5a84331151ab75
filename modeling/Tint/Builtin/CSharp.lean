import Tint.Builtin.Patterns

/-!
# C#

Words and rules of C#.
-/

namespace Tint.Builtin

namespace CSharp

/-- Words with a meaning of their own, names of types among them. -/
def keywords : List String :=
  ["abstract", "as", "base", "bool", "break", "byte", "case", "catch", "char", "checked", "class",
   "const", "continue", "decimal", "default", "delegate", "do", "double", "else", "enum", "event",
   "explicit", "extern", "false", "finally", "fixed", "float", "for", "foreach", "goto", "if",
   "implicit", "in", "int", "interface", "internal", "is", "lock", "long", "namespace", "new",
   "null", "object", "operator", "out", "override", "params", "private", "protected", "public",
   "readonly", "ref", "return", "sbyte", "sealed", "short", "sizeof", "stackalloc", "static",
   "string", "struct", "switch", "this", "throw", "true", "try", "typeof", "uint", "ulong",
   "unchecked", "unsafe", "ushort", "using", "virtual", "void", "volatile", "while", "async",
   "await", "dynamic", "var", "nameof", "when", "where", "yield"]

/-- Names of types. -/
def types : List String :=
  ["bool", "byte", "char", "decimal", "double", "float", "int", "long", "object", "sbyte", "short",
   "string", "uint", "ulong", "ushort", "void", "var"]

/-- Verbatim strings, ordinary ones and characters. -/
def strings : String :=
  "@\"[^\"]*\"|\"(?:[^\"\\\\\\n]|\\\\.)*\"|'(?:[^'\\\\\\n]|\\\\.)'"

end CSharp

open CSharp in
/-- The language C#. -/
def cSharp : Language :=
  language "csharp" ["cs"]
    [ rule .keywords (words keywords),
      rule .types (words types),
      contextRule .functions calledName,
      rule .strings strings,
      lineRule .comments "//.*$|/\\*[\\s\\S]*?\\*/",
      rule .numbers "\\b\\d+\\.?\\d*[fFdDmM]?\\b",
      rule .attributes "\\[\\w+(?:\\([^)]*\\))?\\]" ]

end Tint.Builtin
