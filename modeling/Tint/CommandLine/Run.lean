import Tint.Ansi
import Tint.CommandLine.Options
import Tint.Config.Catalog
import Tint.Files

/-!
# Runs of the program

What a run writes and how it ends, given its arguments and the files and the input that it reads.
Reading is left to a host, so that the same run works on a disk and on a tree of files.
-/

namespace Tint.CommandLine

/-- What a run reads. -/
structure Host (m : Type → Type) where
  /-- The home directory. -/
  home : Option String
  readFile : String → m (Except FileError ByteArray)
  readInput : m (Except FileError ByteArray)

/-- Why a run fails. -/
inductive RunError where
  | usage (error : UsageError)
  | config (error : ConfigError)
  | file (error : FileError)
  /-- The extension of the input file stands for no language. -/
  | languageUnknown (path : String)
  | languageMissing
  deriving DecidableEq, Repr

/-- The wording of an error. -/
def RunError.message : RunError → String
  | usage error => error.message
  | config error => error.message
  | file error => "I/O error: " ++ error.message
  | languageUnknown path => "cannot detect language of " ++ path ++ ", use --lang"
  | languageMissing => "--lang is required when reading stdin"

/-- What comes of a run: what it writes to the standard output, and the language that it has no
rules for or the error that ends it, if there is one. -/
structure Outcome where
  output : String := ""
  unsupported : Option String := none
  error : Option RunError := none
  deriving DecidableEq, Repr

namespace Outcome

/-- The exit code: 1 after an error. -/
def exitCode (outcome : Outcome) : Nat :=
  if outcome.error.isSome then 1 else 0

/-- The line about a language without rules. -/
def warning (outcome : Outcome) : String :=
  match outcome.unsupported with
  | some language => "docglow: no rules for '" ++ language ++ "', output is unhighlighted\n"
  | none => ""

/-- What the run writes to the standard error. -/
def diagnostics (outcome : Outcome) : String :=
  outcome.warning ++
    match outcome.error with
    | some error => "Error: " ++ error.message ++ "\n"
    | none => ""

end Outcome

/-- The name of the program with its version. -/
def versionText : String := "docglow 0.1.0"

/-- The help text. -/
def usageText : String :=
  String.join
    [ versionText, " - highlight code samples as HTML\n",
      "\n",
      "Usage: docglow [OPTIONS] [FILE]\n",
      "\n",
      "Reads FILE (or stdin) and writes the highlighted fragment to stdout.\n",
      "\n",
      "Options:\n",
      "  -l, --lang <LANG>    Language id or alias (detected from FILE otherwise)\n",
      "  -c, --config <PATH>  Config file (default: ~/.docglow.toml)\n",
      "      --ansi           Colored terminal preview instead of HTML\n",
      "      --wrap           Wrap the fragment in <pre><code class=\"language-LANG\">\n",
      "      --list           List supported languages and aliases\n",
      "  -h, --help           Show this help message\n",
      "  -V, --version        Show version information\n" ]

/-- The name of the configuration file in the home directory. -/
def configName : String := ".docglow.toml"

/-- The languages of a catalog, one on a line, with their further names. -/
def listing (catalog : Catalog) : String :=
  String.join (catalog.names.map fun name =>
    match catalog.aliasesOf name with
    | [] => name ++ "\n"
    | aliases => name ++ " (" ++ ", ".intercalate aliases ++ ")\n")

namespace Options

/-- The language of the input: the one asked for, or the one that the extension of the file stands
for. -/
def language? (options : Options) (catalog : Catalog) : Except RunError String :=
  match options.language, options.path with
  | some name, _ => .ok (catalog.resolve name)
  | none, some path => orError (.languageUnknown path) (catalog.detect? path)
  | none, none => .error .languageMissing

/-- The output for a text. -/
def render (options : Options) (highlighter : Highlighter) (text language : String) : String :=
  if options.ansi then Ansi.render (highlighter.tokenize text language)
  else if options.wrap then
    Html.wrapBlock (highlighter.highlight text language) language ++ "\n"
  else highlighter.highlight text language

end Options

variable {m : Type → Type} [Monad m]

/-- Reads a configuration file.  One that is asked for must be there; the one in the home directory
need not be. -/
def readConfig (host : Host m) (path : Option String) : m (Except RunError Config) := do
  let read (content : Except FileError ByteArray) : Except RunError Config := do
    let text ← (content.bind decodeText).mapError .file
    (Config.ofText text).mapError .config
  match path, host.home with
  | some path, _ => return read (← host.readFile path)
  | none, none => return .ok {}
  | none, some home =>
      match ← host.readFile (joinPath home configName) with
      | .error error => return if error.isAbsence then .ok {} else .error (.file error)
      | .ok bytes => return read (.ok bytes)

/-- Reads the input. -/
def readText (host : Host m) (path : Option String) : m (Except RunError String) := do
  let content ← match path with
    | some path => host.readFile path
    | none => host.readInput
  return (content.bind decodeText).mapError .file

/-- Highlights the input in a language that has been found. -/
def highlightInput (host : Host m) (options : Options) (highlighter : Highlighter)
    (language : String) : m Outcome := do
  let unsupported := if highlighter.catalog.supports language then none else some language
  match ← readText host options.path with
  | .error error => return { unsupported, error := some error }
  | .ok text => return { unsupported, output := options.render highlighter text language }

/-- Does what the options ask for. -/
def runOptions (host : Host m) (options : Options) : m Outcome := do
  let highlighter? := (← readConfig host options.configPath).bind fun config =>
    config.highlighter.mapError .config
  match highlighter? with
  | .error error => return { error := some error }
  | .ok highlighter =>
      if options.list then return { output := listing highlighter.catalog }
      else match options.language? highlighter.catalog with
        | .error error => return { error := some error }
        | .ok language => highlightInput host options highlighter language

/-- A run with some arguments. -/
def run (host : Host m) (arguments : List String) : m Outcome :=
  match Command.ofArguments arguments with
  | .error error => return { error := some (.usage error) }
  | .ok .showHelp => return { output := usageText }
  | .ok .showVersion => return { output := versionText ++ "\n" }
  | .ok (.highlight options) => runOptions host options

/-- A host that reads from a tree of files. -/
def Host.ofTree (tree : FileTree) (home : Option String) (input : ByteArray) : Host Id where
  home := home
  readFile path := tree.read path
  readInput := .ok input

end Tint.CommandLine
