import ShaderPair.CommandLine.Reader
import ShaderPair.Session.Action
import ShaderPair.Toolchain.Lookup

/-! A run of the converter: settings, compiler, input, conversion, output, in this order. How its command
line and the sources of its settings are read is left open; the standard readers are those of the command
line program. -/

namespace ShaderPair

structure World where
  host : Host
  environment : List (Text × Text)
  input : Bytes

inductive Reply where
  /-- Text that was asked for. -/
  | shown (text : Text)
  | complaint (text : Text)
  deriving DecidableEq, Repr

/-- How the texts that a run starts from are read. -/
structure Readers where
  commandLine : List (Text × Text) → List Text → Except Reply CommandLine.Options
  help : List (Text × Text) → Text
  formats : Settings.Formats

def CommandLine.help (environment : List (Text × Text)) : Text :=
  helpText ((environment.lookup compilerVariable).getD [])

def CommandLine.Refusal.reply (environment : List (Text × Text)) : CommandLine.Refusal → Reply
  | help => .shown (CommandLine.help environment)
  | version => .shown CommandLine.versionText
  | mistake => .complaint mistake.complaint

def Readers.standard : Readers where
  commandLine environment words :=
    (CommandLine.read environment words).mapError (CommandLine.Refusal.reply environment)
  help := CommandLine.help
  formats := .standard

namespace Session

open CommandLine (Options)

def configuration (fault : Settings.Fault) : RunError := .configuration fault.message

def loadSettings (world : World) (options : Options) (formats : Settings.Formats) : Action Settings := do
  let host ← Action.host
  let settings ← Action.orError configuration (Settings.load host world.environment options formats)
  Action.log [⟨.debug, .settings, "Resolved settings: " ++ settings.summary⟩]
  return settings

def fallbackCompiler : Text := "cgc"

/-- The compiler of the settings, else the best guess. -/
def compilerPath (host : Host) (settings : Settings) : Text :=
  settings.compiler.getD (host.defaultCompiler?.getD fallbackCompiler)

def lookupEvents (host : Host) (settings : Settings) : List Log.Event :=
  if settings.compiler.isSome then [] else host.lookupEvents

def chooseCompiler (settings : Settings) : Action Text := do
  let host ← Action.host
  let path := compilerPath host settings
  Action.log (lookupEvents host settings)
  Action.orError .tool (host.checkCompiler path)
  Action.log [⟨.info, .execution, "Using cgc at " ++ path⟩]
  return path

/-- The text of the input; none when it is empty. -/
def inputText (bytes : Bytes) : Option Text := if bytes.isEmpty then none else some (Text.ofUtf8 bytes)

def readInput (host : Host) (standardInput : Bytes) (path : Option Text) :
    Except OsError (Option Text) :=
  match path with
  | none => .ok (inputText standardInput)
  | some path => (host.read path).map inputText

def ioError (cause : OsError) : RunError := .io cause.message

def creationError (path : Text) (cause : OsError) : RunError :=
  .output ("Failed to create output file: " ++ Text.quoted path) cause.message

/-- The bytes that are held back until they are flushed; more of them are written at once. -/
def bufferSize : Nat := 8192

def writingError (path : Text) (contents : Bytes) (cause : OsError) : RunError :=
  if contents.length < bufferSize then .output "Failed to flush writer for output file" cause.message
  else .output ("Failed to write output file: " ++ Text.quoted path) cause.message

def send (text : Text) : Tree.Target → Action Unit
  | .file place => do
    let host ← Action.host
    Action.setHost { host with tree := host.tree.store place (Text.toUtf8 text) }
  | .sink .standardOutput => Action.note [.print text]
  | .sink .standardError => Action.note [.complaint text]
  | .sink _ => return

/-- The result goes where it was asked for, or is printed. -/
def deliver (output : Option Text) (pair : Pair) : Action Unit := do
  match output with
  | none => Action.note [.print pair.text]
  | some path =>
    let contents := Text.toUtf8 pair.text
    Action.log [⟨.info, .output, "Writing converted shader to " ++ Text.quoted path⟩]
    let host ← Action.host
    let target ← Action.orError (creationError path) (host.create path)
    send pair.text target
    Action.orError (writingError path contents) (host.tree.take target contents)

def failureNotes (failure : Failure) : List Note :=
  .event ⟨.error, .execution, "Conversion failed: " ++ failure.message⟩ ::
    if failure.log.isEmpty then [] else [.complaint (failure.log ++ "\n")]

def convert (toolchain : Toolchain) (source : Text) : Action Pair := do
  let attempt := Conversion.convert toolchain.compiler source
  Action.note (attempt.calls.map .call)
  Action.log (Conversion.events (fun _ call => toolchain.events call) toolchain.compiler source)
  match attempt.outcome with
  | .ok pair => return pair
  | .error failure =>
    Action.note (failureNotes failure)
    throw (.conversion failure)

/-- One conversion from start to end. Empty input asks for help. -/
def execute (world : World) (options : Options) (readers : Readers := .standard) : Action Unit := do
  let settings ← loadSettings world options readers.formats
  let limit ← Action.orError configuration settings.limit
  let path ← chooseCompiler settings
  let host ← Action.host
  let source ← Action.orError ioError (readInput host world.input options.input)
  match source with
  | none => Action.note [.print (readers.help world.environment)]
  | some source =>
    let pair ← convert ⟨host, path, limit⟩ source
    deliver options.output pair
    Action.log [⟨.info, .execution, "Conversion finished"⟩]

def startEvents (options : Options) : List Log.Event := [
  ⟨.debug, .logging, "Logger initialized with level " ++ Text.upper options.level.word⟩,
  ⟨.info, .program, "cg2glsl starting"⟩,
  ⟨.debug, .program, "Loaded Config: " ++ options.summary⟩]

structure Exit where
  status : Nat
  output : Text
  report : Text
  host : Host
  calls : List Call

def refuse (world : World) : Reply → Exit
  | .shown text => ⟨0, text, [], world.host, []⟩
  | .complaint text => ⟨2, [], text, world.host, []⟩

def logVariable : Text := "RUST_LOG"

def logSpecification (world : World) : Text := (world.environment.lookup logVariable).getD []

/-- The error stream of a run that was performed: warnings about the log directives come first. -/
def report (world : World) (options : Options) (state : RunState) : Text :=
  Log.Filter.warnings (logSpecification world) ++
    state.report (.ofText options.level (logSpecification world))

def finish (world : World) (options : Options) (performed : Except RunError Unit × RunState) : Exit :=
  let state := performed.2
  let report := report world options state
  match performed.1 with
  | .ok _ => ⟨0, state.printed, report, state.host, state.calls⟩
  | .error cause =>
    ⟨1, state.printed, report ++ "Error: " ++ cause.message ++ "\n", state.host, state.calls⟩

def started (world : World) (options : Options) (readers : Readers) : Action Unit := do
  Action.log (startEvents options)
  execute world options readers

def run (world : World) (words : List Text) (readers : Readers := .standard) : Exit :=
  match readers.commandLine world.environment words with
  | .error reply => refuse world reply
  | .ok options => finish world options ((started world options readers).perform world.host)

end Session

end ShaderPair
