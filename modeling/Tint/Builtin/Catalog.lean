import Tint.Builtin.Al
import Tint.Builtin.CSharp
import Tint.Builtin.Css
import Tint.Builtin.Json
import Tint.Builtin.Markdown
import Tint.Builtin.PowerShell
import Tint.Builtin.Python
import Tint.Builtin.Sql
import Tint.Builtin.Xml
import Tint.Catalog

/-!
# The built-in catalog

The languages that are there without a configuration.
-/

namespace Tint

namespace Builtin

/-- All built-in languages. -/
def languages : List Language :=
  [al, powerShell, json, python, cSharp, xml, sql, markdown, css]

end Builtin

/-- The catalog of the built-in languages. -/
def Catalog.builtin : Catalog :=
  Builtin.languages.foldl Catalog.addLanguage {}

end Tint
