import ShaderPair.Directive
import ShaderPair.Restoration
import ShaderPair.Text.Utf8

/-! Conversion of a shader source into a pair of shaders. The compiler is any function from the
calls made so far to an answer. It sees the source with the reserved semantics hidden; directives
are read from the source itself. -/

namespace ShaderPair

structure Call where
  profile : Text
  entry : Text
  source : Text
  deriving DecidableEq, Repr

structure Answer where
  code : Text
  diagnostics : Text
  deriving DecidableEq, Repr

/-- The answer to a call may depend on the calls before it. -/
abbrev Compiler := List Call → Call → Except ShaderError Answer

structure Pair where
  vertex : Text
  fragment : Text
  log : Text
  loadOrder : Text
  deriving DecidableEq, Repr

def splitMarker : Text := "// #o3d SplitMarker"

/-- Diagnostics, vertex shader, marker, load order and fragment shader in one text. -/
def Pair.text (pair : Pair) : Text :=
  pair.log ++ "\n" ++ pair.vertex ++ "\n\n" ++ splitMarker ++ "\n" ++ pair.loadOrder ++ "\n\n" ++
    pair.fragment ++ "\n"

/-- A conversion that failed, with the diagnostics of the calls that were answered. -/
structure Failure where
  stage : Option Stage
  cause : ShaderError
  log : Text
  deriving DecidableEq, Repr

def Failure.message (failure : Failure) : Text :=
  match failure.stage with
  | some stage => stage.name ++ " stage: " ++ failure.cause.message
  | none => failure.cause.message

structure Attempt (α ε : Type) where
  calls : List Call
  outcome : Except ε α

namespace Conversion

def diagnosticBlock (stage : Stage) (diagnostics : Text) : Text :=
  "// " ++ stage.profile ++ " profile log:\n" ++
    Text.join "\n" ((Text.lines diagnostics).map fun line => "// " ++ line)

def compileStage (compiler : Compiler) (earlier : List Call) (stage : Stage) (source hidden : Text) :
    Attempt Answer ShaderError :=
  match Directive.entryPoint source stage with
  | .error cause => ⟨[], .error cause⟩
  | .ok entry =>
    let call : Call := ⟨stage.profile, entry, hidden⟩
    ⟨[call], compiler earlier call⟩

def bothBlocks (vertex fragment : Answer) : Text :=
  diagnosticBlock .vertex vertex.diagnostics ++ "\n\n" ++
    diagnosticBlock .fragment fragment.diagnostics ++ "\n"

/-- Restore both answers, the vertex stage first. -/
def restorePair (loadOrder : Text) (vertex fragment : Answer) : Except Failure Pair :=
  let log := bothBlocks vertex fragment
  match Restoration.restoreStage vertex.code with
  | .error cause => .error ⟨some .vertex, cause, log⟩
  | .ok vertexShader =>
    match Restoration.restoreStage fragment.code with
    | .error cause => .error ⟨some .fragment, cause, log⟩
    | .ok fragmentShader => .ok ⟨vertexShader, fragmentShader, log, loadOrder⟩

/-- Convert a source: load order, vertex call, fragment call, restoration. -/
def convert (compiler : Compiler) (source : Text) : Attempt Pair Failure :=
  match Directive.loadOrder source with
  | .error cause => ⟨[], .error ⟨none, cause, []⟩⟩
  | .ok loadOrder =>
    let hidden := Semantic.hide source
    let first := compileStage compiler [] .vertex source hidden
    match first.outcome with
    | .error cause => ⟨first.calls, .error ⟨some .vertex, cause, []⟩⟩
    | .ok vertex =>
      let second := compileStage compiler first.calls .fragment source hidden
      match second.outcome with
      | .error cause =>
        ⟨first.calls ++ second.calls,
          .error ⟨some .fragment, cause, diagnosticBlock .vertex vertex.diagnostics ++ "\n"⟩⟩
      | .ok fragment => ⟨first.calls ++ second.calls, restorePair loadOrder vertex fragment⟩

/-- The events around one call; `speak` gives those of the compiler itself. -/
def stageEvents (speak : List Call → Call → List Log.Event) (compiler : Compiler)
    (earlier : List Call) (stage : Stage) (source hidden : Text) : List Log.Event :=
  match Directive.entryPoint source stage with
  | .error _ => []
  | .ok entry =>
    let call : Call := ⟨stage.profile, entry, hidden⟩
    ⟨.debug, .compilation, "Compiling " ++ stage.name ++ " stage: profile " ++ stage.profile ++
      ", entry '" ++ entry ++ "'"⟩ :: speak earlier call ++
      match compiler earlier call with
      | .error _ => []
      | .ok answer => [⟨.debug, .compilation, stage.name ++ " stage produced " ++
          Text.decimal answer.code.utf8Length ++ " bytes of code, " ++
          Text.decimal answer.diagnostics.utf8Length ++ " bytes of diagnostics"⟩]

def restoreEvents (vertex fragment : Answer) : List Log.Event :=
  Restoration.stageEvents vertex.code ++
    match Restoration.restoreStage vertex.code with
    | .error _ => []
    | .ok _ =>
      Restoration.stageEvents fragment.code ++
        match Restoration.restoreStage fragment.code with
        | .error _ => []
        | .ok _ => [⟨.info, .conversion, "Translated vertex and fragment stages"⟩]

def events (speak : List Call → Call → List Log.Event) (compiler : Compiler) (source : Text) :
    List Log.Event :=
  match Directive.loadOrder source with
  | .error _ => []
  | .ok _ =>
    let hidden := Semantic.hide source
    let first := compileStage compiler [] .vertex source hidden
    let second := compileStage compiler first.calls .fragment source hidden
    Semantic.hideEvents source ++ stageEvents speak compiler [] .vertex source hidden ++
      match first.outcome with
      | .error _ => []
      | .ok vertex =>
        stageEvents speak compiler first.calls .fragment source hidden ++
          match second.outcome with
          | .error _ => []
          | .ok fragment => restoreEvents vertex fragment

end Conversion

end ShaderPair
