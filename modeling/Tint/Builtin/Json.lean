import Tint.Builtin.Patterns

/-!
# JSON

JSON has no rules: the tokenizer for keys and values handles it.
-/

namespace Tint.Builtin

/-- The language JSON. -/
def json : Language :=
  { Language.named "json" with strategy := .structured }

end Tint.Builtin
