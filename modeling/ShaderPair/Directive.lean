import ShaderPair.Error
import ShaderPair.Text.Word

/-! Directives of a shader source, written `#o3d NAME` with blanks between the two. Line ends
count as blanks there, so a directive may run over several lines. Each of the two stages of a shader
has a compiler profile and a directive that names its entry point. -/

namespace ShaderPair

inductive Stage where
  | vertex
  | fragment
  deriving DecidableEq, Repr

namespace Stage

def name : Stage → Text
  | vertex => "vertex"
  | fragment => "fragment"

def profile : Stage → Text
  | vertex => "glslv"
  | fragment => "glslf"

def directive : Stage → Text
  | vertex => "VertexShaderEntryPoint"
  | fragment => "PixelShaderEntryPoint"

end Stage

namespace Directive

open Text

def afterBlanks? (text : Text) : Option Text :=
  if text.head?.any isBlank then some (trimStart text) else none

def after? (name text : Text) : Option Text := do
  let rest ← Text.after? "#o3d" text
  let rest ← afterBlanks? rest
  Text.after? name rest

def word? (text : Text) : Option Text :=
  let word := text.takeWhile isWordChar
  if word.isEmpty then none else some word

def wordAt? (name text : Text) : Option Text := do
  let rest ← after? name text
  let rest ← afterBlanks? rest
  word? rest

/-- The entry point of a stage: the word after its first complete directive. -/
def entryPoint (source : Text) (stage : Stage) : Except ShaderError Text :=
  match (suffixes source).findSome? (wordAt? stage.directive) with
  | some word => .ok word
  | none => .error (.missingDirective stage.directive)

def loadOrderName : Text := "MatrixLoadOrder"

/-- The text after a load order directive that starts here and ends its word. -/
def afterLoadOrder? (text : Text) : Option Text := do
  let rest ← after? loadOrderName text
  if rest.head?.any isWordChar then none else some rest

/-- A text from its start to the end of the line on which a rest of it begins. -/
def lineThrough (text rest : Text) : Text := text.take (text.length - rest.length) ++ rest.takeWhile (· != '\n')

/-- The text from here to the end of the line on which the load order directive that starts last
on this line ends. -/
def loadOrderLine? : Text → Option Text
  | [] => none
  | c :: rest =>
    if c == '\n' then none
    else match loadOrderLine? rest with
      | some line => some (c :: line)
      | none => (afterLoadOrder? (c :: rest)).map (lineThrough (c :: rest))

/-- The line of the first load order directive, trimmed. -/
def loadOrder (source : Text) : Except ShaderError Text :=
  match (lineSuffixes source).findSome? loadOrderLine? with
  | some line => .ok (trim line)
  | none => .error (.missingDirective loadOrderName)

end Directive

end ShaderPair
