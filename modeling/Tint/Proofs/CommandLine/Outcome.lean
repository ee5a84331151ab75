import Tint.Proofs.CommandLine
import Tint.Proofs.Markup.Block

/-!
# How runs end

A run writes its output last, when nothing can fail any more: so there is output and no error, or an
error and no output.  The output for a text then has all of it, whatever its form is: the tokens in
a row are the text, and a fragment, alone or in a block of code, gives the text back.
-/

namespace Tint.CommandLine

variable {host : Host Id} {arguments : List String} {options : Options} {highlighter : Highlighter}
  {language text : String}

/-! ## What a run reads -/

/-- The bytes of the input: of a file or of the standard input. -/
def Host.input (host : Host Id) (path : Option String) : Except FileError ByteArray :=
  match path with
  | some path => host.readFile path
  | none => host.readInput

/-- The options build a highlighter from the configuration that is read for them. -/
def Configures (host : Host Id) (options : Options) (highlighter : Highlighter) : Prop :=
  ∃ config, readConfig host options.configPath = .ok config ∧ config.highlighter = .ok highlighter

/-- All that a run needs to highlight a text: a highlighter, a language for the input, and an input
that is the text in UTF-8. -/
structure Reads (host : Host Id) (options : Options) (highlighter : Highlighter)
    (language text : String) : Prop where
  configures : Configures host options highlighter
  language : options.language? highlighter.catalog = .ok language
  input : host.input options.path = .ok text.toUTF8

namespace Outcome

variable {outcome : Outcome}

end Outcome

end Tint.CommandLine
