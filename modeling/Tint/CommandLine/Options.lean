/-!
# Command-line arguments

The grammar of the arguments.  Help and the version are asked for by the first argument alone; else
the arguments are options and one input file.
-/

namespace Tint.CommandLine

/-- Why arguments are refused. -/
inductive UsageError where
  | valueMissing (option : String)
  | unknownOption (option : String)
  | secondFile
  deriving DecidableEq, Repr

/-- The wording of an error. -/
def UsageError.message : UsageError → String
  | valueMissing option => option ++ " needs a value"
  | unknownOption option => "unknown option: " ++ option
  | secondFile => "only one input file is supported"

/-- What is asked for: a language, a configuration, an input file, and the form of the output. -/
structure Options where
  language : Option String := none
  configPath : Option String := none
  /-- The path of the input; without one it is the standard input. -/
  path : Option String := none
  /-- A preview for the terminal instead of markup. -/
  ansi : Bool := false
  /-- A block of code around the markup. -/
  wrap : Bool := false
  /-- The list of languages, and no input. -/
  list : Bool := false
  deriving DecidableEq, Repr

/-- Reads arguments from left to right; a later one counts in place of an earlier one. -/
def Options.readFrom (options : Options) : List String → Except UsageError Options
  | [] => .ok options
  | argument :: rest =>
      match argument with
      | "-l" | "--lang" =>
          match rest with
          | [] => .error (.valueMissing argument)
          | value :: rest => { options with language := some value }.readFrom rest
      | "-c" | "--config" =>
          match rest with
          | [] => .error (.valueMissing argument)
          | value :: rest => { options with configPath := some value }.readFrom rest
      | "--ansi" => { options with ansi := true }.readFrom rest
      | "--wrap" => { options with wrap := true }.readFrom rest
      | "--list" => { options with list := true }.readFrom rest
      | "-" => { options with path := none }.readFrom rest
      | _ =>
          if argument.toList.head? = some '-' then .error (.unknownOption argument)
          else if options.path.isSome then .error .secondFile
          else { options with path := some argument }.readFrom rest

/-- Reads arguments. -/
def Options.ofArguments (arguments : List String) : Except UsageError Options :=
  Options.readFrom {} arguments

/-- What a run is to do. -/
inductive Command where
  | showHelp
  | showVersion
  | highlight (options : Options)
  deriving DecidableEq, Repr

/-- Reads the command that arguments stand for. -/
def Command.ofArguments (arguments : List String) : Except UsageError Command :=
  match arguments.head? with
  | some "--help" | some "-h" => .ok .showHelp
  | some "--version" | some "-V" => .ok .showVersion
  | _ => .highlight <$> Options.ofArguments arguments

end Tint.CommandLine
