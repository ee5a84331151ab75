import Tint.Builtin.Patterns

/-!
# AL

Words and rules of AL.
-/

namespace Tint.Builtin

namespace Al

/-- Words with a meaning of their own, in any case. -/
def keywords : List String :=
  ["procedure", "trigger", "var", "begin", "end", "if", "then", "else", "case", "of", "repeat",
   "until", "while", "do", "for", "to", "downto", "exit", "break", "with", "record", "page",
   "table", "codeunit", "query", "report", "xmlport", "enum", "interface", "implements", "extends",
   "field", "value", "local", "protected", "internal", "array", "list", "dictionary", "action",
   "area", "group", "part", "keys", "key", "fieldgroups", "fieldgroup", "layout", "actions",
   "modify", "pageextension", "tableextension", "enumextension", "true", "false"]

/-- Names of types. -/
def types : List String :=
  ["Integer", "Decimal", "Boolean", "Text", "Code", "Date", "Time", "DateTime", "Duration",
   "BigInteger", "Guid", "RecordId", "RecordRef", "FieldRef", "Variant", "Option", "Blob",
   "DateFormula", "BigText", "Media", "MediaSet", "Enum"]

/-- Names of methods and system functions. -/
def methods : List String :=
  ["Message", "Error", "Confirm", "StrSubstNo", "CalcFields", "CalcSums", "SetRange", "SetFilter",
   "FindFirst", "FindLast", "FindSet", "Next", "Get", "Insert", "Modify", "Delete", "DeleteAll",
   "Reset", "Init", "Validate", "TestField", "FieldError", "Count", "IsEmpty", "Copy",
   "TransferFields", "SetAutoCalcFields", "SetView", "GetView", "CurrentKey", "SetCurrentKey",
   "Ascending", "SetAscending", "LockTable", "Consistent", "ReadConsistency", "ReadCommitted",
   "ReadUncommitted", "UpdatePropagation", "Rec", "xRec", "CurrPage", "CurrReport", "CurrFieldNo",
   "GuiAllowed", "UserId", "CompanyName", "Today", "WorkDate", "CurrentDateTime"]

/-- Operators, as signs and as words. -/
def operators : String :=
  ":=|<>|<=|>=|[<>+\\-*/=]|\\b(?:and|or|not|xor|div|mod)\\b"

end Al

open Al in
/-- The language AL.  Keywords and operators can be written in any case, names of types and methods
cannot. -/
def al : Language :=
  language "al" []
    [ anyCaseRule .keywords (words keywords),
      rule .types (words types),
      rule .functions (words methods),
      rule .strings quotedString,
      lineRule .comments "//.*$",
      rule .numbers number,
      anyCaseRule .operators operators ]

end Tint.Builtin
