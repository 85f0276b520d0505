import ShaderPair.CommandLine.Refusal

/-! Reading a command line from left to right. An option whose value is a word of its own waits for
it; the value is looked at when the next option comes or the line ends. -/

namespace ShaderPair.CommandLine

structure Draft where
  input : Option Text
  compiler : Option Text
  output : Option Text
  timeout : Option Duration
  settings : Option Text
  level : Option Log.Level
  deriving DecidableEq, Repr

namespace Draft

def empty : Draft := ⟨none, none, none, none, none, none⟩

def isSet (draft : Draft) : Parameter → Bool
  | .input => draft.input.isSome
  | .compiler => draft.compiler.isSome
  | .output => draft.output.isSome
  | .timeout => draft.timeout.isSome
  | .settings => draft.settings.isSome
  | .level => draft.level.isSome

/-- A path must not be empty. -/
def readPath (parameter : Parameter) (value : Text) : Except Refusal Text :=
  if value.isEmpty then .error (.missingValue parameter) else .ok value

def readLevel (value : Text) : Except Refusal Log.Level :=
  match Log.Level.ofWord? value with
  | some level => .ok level
  | none => .error (.unknownLevel value)

def readTimeout (value : Text) : Except Refusal Duration :=
  match Duration.read value with
  | .ok duration => .ok duration
  | .error cause => .error (.invalidDuration value cause)

def set (draft : Draft) (parameter : Parameter) (value : Text) : Except Refusal Draft :=
  if draft.isSet parameter then .error (.repeated parameter)
  else match parameter with
    | .input => (readPath .input value).map fun path => { draft with input := some path }
    | .compiler => (readPath .compiler value).map fun path => { draft with compiler := some path }
    | .output => (readPath .output value).map fun path => { draft with output := some path }
    | .settings => (readPath .settings value).map fun path => { draft with settings := some path }
    | .timeout => (readTimeout value).map fun duration => { draft with timeout := some duration }
    | .level => (readLevel value).map fun level => { draft with level := some level }

end Draft

/-- An option that waits for its value, and the value once it came. -/
structure Waiting where
  parameter : Parameter
  value : Option Text
  deriving DecidableEq, Repr

structure ReaderState where
  draft : Draft
  waiting : Option Waiting
  /-- After `--` no word is an option. -/
  optionsEnded : Bool
  deriving DecidableEq, Repr

namespace ReaderState

def start : ReaderState := ⟨.empty, none, false⟩

def settle (state : ReaderState) : Except Refusal Draft :=
  match state.waiting with
  | none => .ok state.draft
  | some ⟨parameter, none⟩ => .error (.missingValue parameter)
  | some ⟨parameter, some value⟩ => state.draft.set parameter value

def option (state : ReaderState) (parameter : Parameter) (attached : Option Text) :
    Except Refusal ReaderState := do
  let draft ← state.settle
  match attached with
  | none => .ok ⟨draft, some ⟨parameter, none⟩, false⟩
  | some value => (draft.set parameter value).map fun draft => ⟨draft, none, false⟩

def flag (state : ReaderState) (request : Refusal) : Except Refusal ReaderState := do
  let _ ← state.settle
  .error request

def flagOf? (name : Text) : Option Refusal :=
  if name == ['h', 'e', 'l', 'p'] then some .help
  else if name == ['v', 'e', 'r', 's', 'i', 'o', 'n'] then some .version
  else none

def longWord (state : ReaderState) (word : Text) : Except Refusal ReaderState :=
  let body := word.drop 2
  let name := body.takeWhile (· != '=')
  let attached := Text.after? "=" (body.drop name.length)
  match Parameter.ofLong? name, flagOf? name, attached with
  | some parameter, _, _ => state.option parameter attached
  | none, some request, none => state.flag request
  | none, some _, some value => .error (.unexpectedValue ("--" ++ name) value)
  | none, none, _ => .error (.unknownArgument ("--" ++ name))

/-- A word that starts with one dash: an option takes the rest of it as value. -/
def shortWord (state : ReaderState) (name : Char) (rest : Text) : Except Refusal ReaderState :=
  if name == 'h' then state.flag .help
  else if name == 'V' then state.flag .version
  else match Parameter.ofShort? name with
    | some parameter =>
      state.option parameter (if rest.isEmpty then none else some ((Text.after? "=" rest).getD rest))
    | none => .error (.unknownArgument ['-', name])

/-- A word that is no option is the value waited for. -/
def plainWord (state : ReaderState) (word : Text) : Except Refusal ReaderState :=
  match state.waiting with
  | some ⟨parameter, none⟩ => .ok { state with waiting := some ⟨parameter, some word⟩ }
  | _ => .error (.unknownArgument word)

def word (state : ReaderState) (word : Text) : Except Refusal ReaderState :=
  if state.optionsEnded then .error (.unknownArgument word)
  else match word with
    | ['-', '-'] => .ok { state with optionsEnded := true }
    | '-' :: '-' :: _ => state.longWord word
    | '-' :: name :: rest => state.shortWord name rest
    | _ => state.plainWord word

end ReaderState

def compilerVariable : Text := "CG2GLSL_CGC"

/-- The options of a command line. The compiler may come from the environment. -/
def read (environment : List (Text × Text)) (words : List Text) : Except Refusal Options := do
  let state ← words.foldlM ReaderState.word ReaderState.start
  let draft ← state.settle
  let draft ← match draft.compiler, environment.lookup compilerVariable with
    | none, some value => draft.set .compiler value
    | _, _ => .ok draft
  .ok ⟨draft.input, draft.compiler, draft.output, draft.timeout, draft.settings,
    draft.level.getD .warn⟩

end ShaderPair.CommandLine
