import Tint.Builtin.Patterns

/-!
# Markdown

Rules of Markdown.
-/

namespace Tint.Builtin

/-- The language Markdown.  Headers, lists and quotes are anchored at lines. -/
def markdown : Language :=
  language "md" ["markdown"]
    [ lineRule .headers "^#\x7b1,6\x7d[ \\t]+.+$",
      lineRule .lists "^[ \\t]*[-*+][ \\t]+.+$",
      lineRule .blockquotes "^>[ \\t]+.+$",
      rule .bold "\\*\\*[^*]+\\*\\*|__[^_]+__",
      rule .italic "\\*[^*]+\\*|_[^_]+_",
      rule .code "`[^`]+`",
      rule .links "\\[([^\\]]+)\\]\\(([^)]+)\\)" ]

end Tint.Builtin
