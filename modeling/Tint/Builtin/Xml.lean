import Tint.Builtin.Patterns

/-!
# XML

Rules of XML.
-/

namespace Tint.Builtin

/-- The language XML.  Quoted values are strings before attribute names are sought. -/
def xml : Language :=
  language "xml" ["xsd", "xaml"]
    [ rule .comments "<!--[\\s\\S]*?-->",
      rule .strings quotedString,
      contextRule .attributes "\\s([\\w:.-]+)\\s*=",
      rule .tags "</?[\\w:.-]+|/>",
      rule .cdata "<!\\[CDATA\\[[\\s\\S]*?\\]\\]>" ]

end Tint.Builtin
