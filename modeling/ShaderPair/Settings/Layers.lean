import ShaderPair.CommandLine.Options
import ShaderPair.Host.Tree
import ShaderPair.Settings.Document
import ShaderPair.Settings.Environment

/-! Settings in layers: defaults, a settings file, environment variables and the command line. For
each setting the last layer that has it decides. How the texts of a file and of the variables are read
is left open here; the standard formats are those of the command line program. -/

namespace ShaderPair

structure Settings where
  compiler : Option Text
  timeout : Text
  deriving DecidableEq, Repr

namespace Settings

inductive Key where
  | compiler
  | timeout
  deriving DecidableEq, Repr

def Key.name : Key → Text
  | compiler => "cgc_path"
  | timeout => "timeout"

def Key.expected : Key → Text
  | compiler => "path string"
  | timeout => "a string"

inductive Origin where
  | file (shown : Text)
  | environment
  deriving DecidableEq, Repr

def Origin.keyText (origin : Origin) (key : Key) : Text :=
  match origin with
  | file _ => "default." ++ key.name
  | environment => Text.upper key.name

def Origin.text : Origin → Text
  | file shown => shown ++ " TOML file"
  | environment => "`CG2GLSL_` environment variable(s)"

inductive Fault where
  | missingFile (path : Text)
  | unreadableFile (shown cause : Text)
  | malformedFile (shown cause : Text)
  | wrongType (found : Value) (key : Key) (origin : Origin)
  | invalidTimeout (timeout : Text) (cause : Duration.ReadError)
  deriving DecidableEq, Repr

def Fault.message : Fault → Text
  | missingFile path => "settings file " ++ path ++ " does not exist"
  | unreadableFile shown cause => cause ++ "\n in " ++ shown ++ " TOML file"
  | malformedFile shown cause => cause ++ " in " ++ shown ++ " TOML file"
  | wrongType found key origin =>
    "invalid type: found " ++ found.found ++ ", expected " ++ key.expected ++ " for key \"" ++
      origin.keyText key ++ "\" in " ++ origin.text
  | invalidTimeout timeout cause => "invalid timeout '" ++ timeout ++ "': " ++ cause.message

def fileName : Text := "cg2glsl.toml"

def defaultTimeout : Text := "60s"

abbrev Values := Text → Option Value

/-- How sources of settings are read; a settings file can be refused with a reason. -/
structure Formats where
  document : Text → Except Text Values
  environment : List (Text × Text) → Values

def Formats.standard : Formats where
  document text :=
    match Document.read? text with
    | some entries => .ok (Document.get? entries)
    | none => .error "TOML parse error"
  environment := Environment.get?

/-- The settings file in the working folder or the nearest folder above it: its path as seen from
the working folder, and its place. -/
def nearestFile? (host : Host) : Option (Text × Place) :=
  (List.range (host.working.length + 1)).findSome? fun levels =>
    match host.tree.walk (host.working.take (host.working.length - levels)) [fileName] with
    | .error _ => none
    | .ok place =>
      match host.tree.node? place with
      | some (.file _) => some ((List.replicate levels ("../" : Text)).flatten ++ fileName, place)
      | _ => none

def findFile (host : Host) (asked : Option Text) : Except Fault (Option (Text × Place)) :=
  match asked with
  | none => .ok (nearestFile? host)
  | some path =>
    match host.place path with
    | .error _ => .error (.missingFile path)
    | .ok place =>
      match host.tree.node? place with
      | some (.file _) => .ok (some (Path.tidy path, place))
      | _ => .error (.missingFile path)

def textAt (host : Host) (place : Place) : Except Text Text :=
  match host.tree.readAt place with
  | .error cause => .error cause.message
  | .ok contents =>
    let text := Text.ofUtf8 contents
    if Text.toUtf8 text = contents then .ok text else .error "stream did not contain valid UTF-8"

structure Sourced where
  value : Value
  origin : Origin
  deriving DecidableEq, Repr

structure FileLayer where
  shown : Text
  values : Values

def readFile (host : Host) (asked : Option Text) (formats : Formats) : Except Fault (Option FileLayer) :=
  match findFile host asked with
  | .error fault => .error fault
  | .ok none => .ok none
  | .ok (some (shown, place)) =>
    match textAt host place with
    | .error cause => .error (.unreadableFile shown cause)
    | .ok text =>
      match formats.document text with
      | .error cause => .error (.malformedFile shown cause)
      | .ok values => .ok (some ⟨shown, values⟩)

def FileLayer.get? (layer : FileLayer) (key : Key) : Option Sourced :=
  (layer.values key.name).map fun value => ⟨value, .file layer.shown⟩

/-- The value below the command line: the environment decides before the file. -/
def sourced? (file : Option FileLayer) (above : Values) (key : Key) : Option Sourced :=
  (above key.name).map (fun value => ⟨value, .environment⟩) <|> file.bind (·.get? key)

def textOf (key : Key) : Option Sourced → Except Fault (Option Text)
  | none => .ok none
  | some ⟨.text value, _⟩ => .ok (some value)
  | some ⟨value, origin⟩ => .error (.wrongType value key origin)

/-- A value of the command line decides; nothing below it is looked at. -/
def layered (given : Option Text) (below : Option Sourced) (key : Key) : Except Fault (Option Text) :=
  match given with
  | some value => .ok (some value)
  | none => textOf key below

/-- The settings of a run. A wrong compiler path is reported before a wrong timeout. -/
def load (host : Host) (environment : List (Text × Text)) (options : CommandLine.Options)
    (formats : Formats := .standard) : Except Fault Settings := do
  let file ← readFile host options.settings formats
  let above := formats.environment environment
  let compiler ← layered options.compiler (sourced? file above .compiler) .compiler
  let timeout ← layered (options.timeout.map Duration.text) (sourced? file above .timeout) .timeout
  .ok ⟨compiler, timeout.getD defaultTimeout⟩

def limit (settings : Settings) : Except Fault Duration :=
  match Duration.read settings.timeout with
  | .ok duration => .ok duration
  | .error cause => .error (.invalidTimeout settings.timeout cause)

def summary (settings : Settings) : Text :=
  "Settings \x7b cgc_path: " ++ CommandLine.optionalText Text.quoted settings.compiler ++
    ", timeout: " ++ Text.quoted settings.timeout ++ " \x7d"

end Settings

end ShaderPair
