import ShaderPair.Body
import ShaderPair.Header

/-! Restoration of a translated stage. Declared uniforms and attributes get back the names they had
in the source, square vector arrays become matrices, built-in vertex inputs become declared
attributes, and the clip position goes through a temporary that the renderer's clipping adjusts. -/

namespace ShaderPair

inductive Qualifier where
  | uniform
  | input
  deriving DecidableEq, Repr

def Qualifier.word : Qualifier → Text
  | uniform => "uniform"
  | input => "attribute"

namespace Restoration

structure RestoredName where
  qualifier : Qualifier
  generated : Text
  name : Text
  deriving DecidableEq, Repr

/-- The vertex input semantic that a symbol's name hides. -/
def vertexInput? (name : Text) : Option Text :=
  (Text.after? "$vin." name).bind Semantic.ofPlaceholder?

/-- A uniform takes the name of its symbol, an attribute the semantic hidden behind it. -/
def restoreName (symbols : SymbolMap) (declared : Qualifier × Declaration) :
    Except ShaderError RestoredName :=
  match symbols.resolve declared.2.name, declared.1 with
  | .error cause, _ => .error cause
  | .ok symbol, .uniform => .ok ⟨.uniform, declared.2.name, symbol.name⟩
  | .ok symbol, .input =>
    match vertexInput? symbol.name with
    | some semantic => .ok ⟨.input, declared.2.name, semantic⟩
    | none => .error (.unexpectedNamespace declared.2.name symbol.name)

/-- All uniforms, then all attributes. -/
def declared (body : Body) : List (Qualifier × Declaration) :=
  [Qualifier.uniform, Qualifier.input].flatMap fun qualifier =>
    (body.declarations qualifier.word).map fun declaration => (qualifier, declaration)

def restoreNames (symbols : SymbolMap) (body : Body) : Progress ShaderError RestoredName :=
  .along (restoreName symbols) (declared body)

def nameTable (names : List RestoredName) : Table Text :=
  .ofPairs (names.map fun restored => (restored.generated, restored.name))

structure Draft where
  declarations : List Text
  body : Body
  deriving DecidableEq, Repr

def builtinInputs : List (Text × Text) :=
  ("gl_Vertex", "position") :: (List.range 8).map fun unit =>
    ("gl_MultiTexCoord" ++ Text.decimal unit, "texCoord" ++ Text.decimal unit)

/-- A built-in input that the body uses becomes a declared attribute. -/
def declareInput (draft : Draft) (input : Text × Text) : Draft :=
  if draft.body.mentions input.1 then
    ⟨draft.declarations ++ ["attribute vec4 " ++ input.2 ++ ";"],
      draft.body.rename (.ofPairs [(input.1, input.2)])⟩
  else draft

def clipPosition : Text := "gl_Position"

def clipTemporary : Text := "_glPositionTemp"

def clipDeclarations : List Text := ["vec4 _glPositionTemp;", "uniform vec4 dx_clipping;"]

def clipRecombination : Text :=
  " gl_Position = vec4(_glPositionTemp.x + _glPositionTemp.w * dx_clipping.x, " ++
    "dx_clipping.w * (_glPositionTemp.y + _glPositionTemp.w * dx_clipping.y), " ++
    "_glPositionTemp.z * 2.0 - _glPositionTemp.w, _glPositionTemp.w);"

/-- The one clip position becomes the temporary, and its statement is followed by the
recombination. -/
def splitClipPosition (draft : Draft) : Except ShaderError Draft :=
  match draft.body.positionsOf clipPosition with
  | [] => .ok draft
  | [position] =>
    match draft.body.findPunct? (position + 1) ';' with
    | some finish =>
      .ok ⟨draft.declarations ++ clipDeclarations,
        (draft.body.replaceWithIdent position clipTemporary).insertAfter finish clipRecombination⟩
    | none => .error .unterminatedClipAssignment
  | positions => .error (.multipleClipAssignment positions.length)

structure Restored where
  declarations : List Text
  body : Text
  deriving DecidableEq, Repr

def Restored.text (restored : Restored) : Text :=
  Text.join "\n" restored.declarations ++ "\n\n" ++ restored.body

def Draft.finish (draft : Draft) : Restored := ⟨draft.declarations, draft.body.text⟩

def withNames (names : List RestoredName) (body : Body) : Body := body.rename (nameTable names)

def finishBody (body : Body) : Except ShaderError Restored :=
  let draft := builtinInputs.foldl declareInput ⟨[], body.collapse⟩
  if draft.body.mentions "gl_Normal" then
    .error (.internalConsistency "gl_Normal survived semantic renaming")
  else (splitClipPosition draft).map Draft.finish

def restoreBody (symbols : SymbolMap) (text : Text) : Except ShaderError Restored :=
  match (restoreNames symbols (.ofText text)).toExcept with
  | .ok names => finishBody (withNames names (.ofText text))
  | .error cause => .error cause

def restoreStage (translated : Text) : Except ShaderError Text :=
  match Header.split translated with
  | .error cause => .error cause
  | .ok (header, body) =>
    match Header.symbols header with
    | .error cause => .error cause
    | .ok symbols => (restoreBody symbols body).map fun restored => header ++ "\n\n" ++ restored.text

def RestoredName.event (restored : RestoredName) : Log.Event :=
  ⟨.trace, .restoration, restored.qualifier.word ++ " " ++ restored.generated ++ " -> " ++ restored.name⟩

def bodyEvents (symbols : SymbolMap) (text : Text) : List Log.Event :=
  let body := Body.ofText text
  let names := (restoreNames symbols body).done
  names.map RestoredName.event ++
    match (restoreNames symbols body).failure with
    | some _ => []
    | none =>
      ⟨.debug, .restoration, "Restored " ++ Text.decimal (nameTable names).size ++
        " declared name(s) across " ++ Text.decimal (body.renameCount (nameTable names)) ++
        " occurrence(s)"⟩ ::
      (withNames names body).collapsedNames.map fun name =>
        ⟨.debug, .restoration, "Collapsed uniform array '" ++ name ++ "' into a matrix"⟩

def stageEvents (translated : Text) : List Log.Event :=
  match Header.split translated with
  | .error _ => []
  | .ok (header, body) =>
    Header.events header ++
      match Header.symbols header with
      | .error _ => []
      | .ok symbols => bodyEvents symbols body

end Restoration

end ShaderPair
