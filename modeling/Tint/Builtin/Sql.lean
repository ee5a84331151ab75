import Tint.Builtin.Patterns

/-!
# SQL

Words and rules of SQL.
-/

namespace Tint.Builtin

namespace Sql

/-- Words with a meaning of their own, in any case. -/
def keywords : List String :=
  ["select", "from", "where", "join", "inner", "left", "right", "full", "outer", "on", "as",
   "order", "by", "group", "having", "union", "all", "insert", "into", "values", "update", "set",
   "delete", "create", "table", "alter", "drop", "index", "view", "trigger", "procedure",
   "function", "declare", "begin", "end", "if", "then", "else", "case", "when", "while", "for",
   "return", "commit", "rollback", "transaction", "grant", "revoke", "with", "distinct", "top",
   "limit", "offset", "exists", "between", "in", "like", "is", "null", "not", "and", "or", "asc",
   "desc", "primary", "key", "foreign", "references", "constraint", "default", "unique", "check"]

/-- Names of functions, in any case. -/
def functions : List String :=
  ["count", "sum", "avg", "min", "max", "round", "floor", "ceiling", "abs", "coalesce", "nullif",
   "cast", "convert", "substring", "left", "right", "len", "length", "trim", "ltrim", "rtrim",
   "upper", "lower", "replace", "charindex", "patindex", "dateadd", "datediff", "getdate", "year",
   "month", "day"]

end Sql

open Sql in
/-- The language SQL. -/
def sql : Language :=
  language "sql" []
    [ anyCaseRule .keywords (words keywords),
      anyCaseRule .functions (words functions),
      rule .strings quotedString,
      lineRule .comments "--.*$|/\\*[\\s\\S]*?\\*/",
      rule .numbers number,
      rule .operators "<>|!=|<=|>=|[=<>+\\-*/%]" ]

end Tint.Builtin
