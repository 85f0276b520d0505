import ShaderPair.Text.Terminal

/-! Log events: a level, the part of the program that speaks, and a message. What is shown depends
on the level asked for and on directives that single out a part. -/

namespace ShaderPair

namespace Log

inductive Level where
  | error
  | warn
  | info
  | debug
  | trace
  deriving DecidableEq, Repr

namespace Level

def all : List Level := [error, warn, info, debug, trace]

def word : Level → Text
  | error => "error"
  | warn => "warn"
  | info => "info"
  | debug => "debug"
  | trace => "trace"

def title : Level → Text
  | error => "Error"
  | warn => "Warn"
  | info => "Info"
  | debug => "Debug"
  | trace => "Trace"

def rank : Level → Nat
  | error => 1
  | warn => 2
  | info => 3
  | debug => 4
  | trace => 5

def ofWord? (word : Text) : Option Level := all.find? (·.word == word)

def column (level : Level) : Text :=
  let word := Text.upper level.word
  word ++ List.replicate (5 - word.length) ' '

end Level

inductive Source where
  | program
  | logging
  | settings
  | execution
  | output
  | lookup
  | process
  | semantics
  | compilation
  | symbols
  | restoration
  | conversion
  deriving DecidableEq, Repr

def Source.label : Source → Text
  | program => "cg2glsl_app"
  | logging => "cg2glsl_app::logging"
  | settings => "cg2glsl_app::settings"
  | execution => "cg2glsl_app::execution"
  | output => "cg2glsl_app::output"
  | lookup => "cg2glsl_cgc::locate"
  | process => "cg2glsl_cgc::cgc"
  | semantics => "cg2glsl_core::semantics"
  | compilation => "cg2glsl_core::compiler"
  | symbols => "cg2glsl_core::mapping"
  | restoration => "cg2glsl_core::rewriter"
  | conversion => "cg2glsl_core::pipeline"

structure Event where
  level : Level
  source : Source
  message : Text
  deriving DecidableEq, Repr

/-- The line of an event, as it is shown outside a terminal. Further lines of its message are
indented. -/
def Event.line (event : Event) : Text :=
  Text.visible ("[" ++ event.level.column ++ " " ++ event.source.label ++ "] " ++
    Text.indentRest 4 event.message ++ "\n")

end Log

end ShaderPair
