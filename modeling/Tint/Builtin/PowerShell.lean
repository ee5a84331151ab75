import Tint.Builtin.Patterns

/-!
# PowerShell

Words and rules of PowerShell.
-/

namespace Tint.Builtin

namespace PowerShell

/-- Words with a meaning of their own, in any case. -/
def keywords : List String :=
  ["if", "else", "elseif", "switch", "foreach", "for", "while", "do", "until", "break", "continue",
   "function", "param", "return", "filter", "in", "throw", "trap", "try", "catch", "finally",
   "class", "enum", "using", "namespace", "module", "inherits"]

/-- The verbs that the names of commands start with. -/
def verbs : List String :=
  ["Get", "Set", "New", "Remove", "Add", "Clear", "Close", "Copy", "Enter", "Exit", "Find",
   "Format", "Hide", "Join", "Lock", "Move", "Out", "Pop", "Push", "Redo", "Reset", "Resize",
   "Search", "Select", "Show", "Skip", "Split", "Step", "Switch", "Undo", "Unlock", "Watch",
   "Connect", "Disconnect", "Read", "Receive", "Send", "Write", "Where", "Sort", "Tee", "Import",
   "Export", "ConvertTo", "ConvertFrom", "Invoke", "Start", "Stop", "Restart", "Suspend", "Resume",
   "Wait", "Use", "Update"]

/-- Names of commands: a verb and dashed segments after it. -/
def commands : String :=
  "\\b(" ++ "|".intercalate verbs ++ ")(-\\w+)+"

/-- Operators, as dashed words and as signs. -/
def operators : String :=
  "-(?:eq|ne|gt|lt|le|ge|like|notlike|match|notmatch|replace|contains|notcontains|in|notin|band|bor|bxor|bnot|and|or|not|split|join)\\b|[%+\\-*/=]"

/-- Strings; those between `@"` and `"@`, or `@'` and `'@`, go over several lines. -/
def strings : String :=
  "@\"[\\s\\S]*?\"@|@'[\\s\\S]*?'@|" ++ quotedString

end PowerShell

open PowerShell in
/-- The language PowerShell. -/
def powerShell : Language :=
  language "powershell" ["ps1", "psm1"]
    [ anyCaseRule .keywords (words keywords),
      anyCaseRule .cmdlets commands,
      rule .vars "\\$\\w+",
      rule .strings strings,
      lineRule .comments "<#[\\s\\S]*?#>|#.*$",
      rule .numbers number,
      anyCaseRule .operators operators ]

end Tint.Builtin
