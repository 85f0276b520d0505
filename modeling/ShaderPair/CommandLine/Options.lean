import ShaderPair.Duration.Printer
import ShaderPair.Duration.Reader
import ShaderPair.Log
import ShaderPair.Text.Quoted

/-! The options of the command line and what they are set to. -/

namespace ShaderPair.CommandLine

/-- The options that take a value. -/
inductive Parameter where
  | input
  | compiler
  | output
  | timeout
  | settings
  | level
  deriving DecidableEq, Repr

namespace Parameter

def all : List Parameter := [input, compiler, output, timeout, settings, level]

def long : Parameter → Text
  | input => "input"
  | compiler => "cgc"
  | output => "output"
  | timeout => "timeout"
  | settings => "config"
  | level => "log-level"

def short? : Parameter → Option Char
  | input => some 'i'
  | output => some 'o'
  | _ => none

def valueName : Parameter → Text
  | input | output | settings => "FILE"
  | compiler => "PATH"
  | timeout => "DURATION"
  | level => "LOG_LEVEL"

/-- The option with its value, as complaints show it. -/
def shown (parameter : Parameter) : Text :=
  "--" ++ parameter.long ++ " <" ++ parameter.valueName ++ ">"

def ofLong? (name : Text) : Option Parameter := all.find? (·.long == name)

def ofShort? (name : Char) : Option Parameter := all.find? (·.short? == some name)

end Parameter

structure Options where
  input : Option Text
  compiler : Option Text
  output : Option Text
  timeout : Option Duration
  settings : Option Text
  level : Log.Level
  deriving DecidableEq, Repr

def optionalText (shown : α → Text) : Option α → Text
  | some value => "Some(" ++ shown value ++ ")"
  | none => "None"

def Options.summary (options : Options) : Text :=
  "AppConfig \x7b input: " ++ optionalText Text.quoted options.input ++
    ", cgc: " ++ optionalText Text.quoted options.compiler ++
    ", output: " ++ optionalText Text.quoted options.output ++
    ", timeout: " ++ optionalText Duration.brief options.timeout ++
    ", config_file: " ++ optionalText Text.quoted options.settings ++
    ", log_level: " ++ options.level.title ++ " \x7d"

end ShaderPair.CommandLine
