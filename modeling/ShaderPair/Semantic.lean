import ShaderPair.Log
import ShaderPair.Token

/-! Vertex input semantics and matrix uniforms. Five semantics are hidden from the compiler behind
numbered attributes, in upper case in the source and in any case in its answer. Semantics of matrix
uniforms have one spelling in mixed case. -/

namespace ShaderPair.Semantic

def placeholders : List (Text × Text) := [
  ("attr8", "normal"),
  ("attr9", "tangent"),
  ("attr10", "binormal"),
  ("attr11", "tangent1"),
  ("attr12", "binormal1")]

def matrixNames : List Text := [
  "world",
  "view",
  "projection",
  "worldView",
  "worldViewProjection",
  "worldInverse",
  "viewInverse",
  "projectionInverse",
  "worldViewInverse",
  "viewProjectionInverse",
  "worldViewProjectionInverse",
  "worldTranspose",
  "viewTranspose",
  "projectionTranspose",
  "worldViewTranspose",
  "viewProjectionTranspose",
  "worldViewProjectionTranspose",
  "worldInverseTranspose",
  "viewInverseTranspose",
  "projectionInverseTranspose",
  "worldViewInverseTranspose",
  "viewProjectionInverseTranspose",
  "worldViewProjectionInverseTranspose"]

/-- The semantic behind a placeholder, whatever the case of its letters. -/
def ofPlaceholder? (name : Text) : Option Text :=
  (placeholders.find? fun pair => Text.sameLetters pair.1 name).map (·.2)

/-- The one spelling of a semantic: that of the matrix uniform, else lower case. -/
def canonical (semantic : Text) : Text :=
  (matrixNames.find? fun name => Text.lower name == Text.lower semantic).getD (Text.lower semantic)

/-- Upper-case semantics and the upper-case placeholders that hide them. -/
def hiddenNames : Table Text :=
  .ofPairs (placeholders.map fun pair => (Text.upper pair.2, Text.upper pair.1))

def hide (source : Text) : Text := render ((tokenize source).map (Token.rename hiddenNames))

def hiddenCount (source : Text) : Nat := (tokenize source).countP (Token.isNamed hiddenNames)

def hideEvents (source : Text) : List Log.Event := [
  ⟨.debug, .semantics, "Renamed " ++ Text.decimal (hiddenCount source) ++
    " reserved semantic occurrence(s) in the Cg source"⟩]

end ShaderPair.Semantic
