import ShaderPair.CommandLine.Options

/-! Command lines that do not lead to a run: requests for help or the version, and mistakes. -/

namespace ShaderPair.CommandLine

inductive Refusal where
  | help
  | version
  | unknownArgument (argument : Text)
  | missingValue (parameter : Parameter)
  | unknownLevel (value : Text)
  | invalidDuration (value : Text) (cause : Duration.ReadError)
  | repeated (parameter : Parameter)
  | unexpectedValue (flag value : Text)
  deriving DecidableEq, Repr

def usage : Text := "Usage: cg2glsl [OPTIONS]\n"

def hint : Text := "For more information, try '--help'.\n"

def versionText : Text := "cg2glsl 0.1.0\n"

def helpColumn : Nat := 31

/-- The variable that can stand in for the compiler option, up to where the name of the next option
starts and ends whatever control sequence was left open. -/
def variableText (compilerVariable : Text) : Text :=
  Text.visible (Text.indentRest helpColumn compilerVariable ++ "]\n  ")

def helpText (compilerVariable : Text) : Text :=
  "Converts an o3d Cg shader into a GLSL vertex/fragment pair\n\n" ++ usage ++ "\nOptions:\n" ++
    "  -i, --input <FILE>           Input shader; standard input if omitted\n" ++
    "      --cgc <PATH>             Path to cgc. Auto-detected when not given here or in the " ++
    "settings [env: CG2GLSL_CGC=" ++ variableText compilerVariable ++
    "-o, --output <FILE>          Write the converted shader here instead of standard output\n" ++
    "      --timeout <DURATION>     Give up on a cgc run after this long (e.g., \"30s\", \"500ms\")\n" ++
    "      --config <FILE>          TOML settings file. Defaults to ./cg2glsl.toml when present\n" ++
    "      --log-level <LOG_LEVEL>  Log level for messages on stderr; RUST_LOG takes precedence " ++
    "[default: warn] [possible values: error, warn, info, debug, trace]\n" ++
    "  -h, --help                   Print help\n" ++
    "  -V, --version                Print version\n"

def possibleValues : Parameter → Text
  | .level => "  [possible values: " ++ Text.join ", " (Log.Level.all.map Log.Level.word) ++ "]\n"
  | _ => []

def Refusal.complaint : Refusal → Text
  | help | version => ""
  | unknownArgument argument =>
    "error: unexpected argument '" ++ Text.visible argument ++ "' found\n\n" ++ usage ++ "\n" ++ hint
  | missingValue parameter =>
    "error: a value is required for '" ++ parameter.shown ++ "' but none was supplied\n" ++
      possibleValues parameter ++ "\n" ++ hint
  | unknownLevel value =>
    "error: invalid value '" ++ Text.visible value ++ "' for '" ++ Parameter.level.shown ++
      "'\n" ++ possibleValues .level ++ "\n" ++ hint
  | invalidDuration value cause =>
    "error: invalid value '" ++ Text.visible value ++ "' for '" ++ Parameter.timeout.shown ++ "': " ++
      cause.message ++ "\n\n" ++ hint
  | repeated parameter =>
    "error: the argument '" ++ parameter.shown ++ "' cannot be used multiple times\n\n" ++ usage ++
      "\n" ++ hint
  | unexpectedValue flag value =>
    "error: unexpected value '" ++ Text.visible value ++ "' for '" ++ flag ++
      "' found; no more were expected\n\n" ++ usage ++ "\n" ++ hint

end ShaderPair.CommandLine
