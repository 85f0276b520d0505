import ShaderPair.Error
import ShaderPair.Log
import ShaderPair.Progress
import ShaderPair.Semantic

/-! The header of a translated stage: comment lines up to the first blank line. A line
`//var TYPE NAME : SEMANTIC : GENERATED : INDEX : USED` tells which name the compiler gave to an
input or output. The symbols of a header are the names a shader had before compilation, by the names
the compiler gave them. -/

namespace ShaderPair

/-- Where the name of a symbol comes from. -/
inductive SymbolKind where
  | semantic
  | plain
  deriving DecidableEq, Repr

structure Symbol where
  name : Text
  kind : SymbolKind
  deriving DecidableEq, Repr

abbrev SymbolMap := Table Symbol

def SymbolMap.resolve (symbols : SymbolMap) (generated : Text) : Except ShaderError Symbol :=
  match symbols.get? generated with
  | some symbol => .ok symbol
  | none => .error (.unmappedIdentifier generated)

namespace Header

/-- What is wrong with a header. Lines count from one. -/
inductive Fault where
  | noBlankLine
  | notComment (number : Nat) (line : Text)
  | fieldCount (number count : Nat) (line : Text)
  | emptyName (number : Nat) (line : Text)
  | noVariable (number : Nat) (line : Text)
  deriving DecidableEq, Repr

namespace Fault

def detail : Fault → Text
  | noBlankLine => "no blank line separating the header from the translated code"
  | notComment number line => "line " ++ Text.decimal number ++ " is not a comment: " ++ line
  | fieldCount number count line =>
    "line " ++ Text.decimal number ++ " has " ++ Text.decimal count ++ " fields, expected 5: " ++ line
  | emptyName number line =>
    "line " ++ Text.decimal number ++ " has an empty generated name: " ++ line
  | noVariable number line =>
    "line " ++ Text.decimal number ++ " does not declare a variable name: " ++ line

def error (fault : Fault) : ShaderError := .malformedHeader fault.detail

end Fault

/-- The blank line after the header, in the line ends the text uses. -/
def separator (translated : Text) : Text :=
  if Text.contains "\r\n" translated then "\r\n\r\n" else "\n\n"

def split (translated : Text) : Except ShaderError (Text × Text) :=
  match Text.cut? (separator translated) translated with
  | some halves => .ok halves
  | none => .error Fault.noBlankLine.error

/-- A generated name without subscript, leading `$` and qualifying parts. -/
def bareName (field : Text) : Text :=
  let name := Text.trim (field.takeWhile (· != '['))
  let name := (Text.after? "$" name).getD name
  (name.reverse.takeWhile (· != '.')).reverse

structure Entry where
  generated : Text
  symbol : Symbol
  deriving DecidableEq, Repr

def symbolOf (number : Nat) (line declaration semantic : Text) : Except Fault Symbol :=
  if semantic.isEmpty then
    match (Text.words declaration)[2]? with
    | some name => .ok ⟨name, .plain⟩
    | none => .error (.noVariable number line)
  else .ok ⟨Semantic.canonical semantic, .semantic⟩

def readVariable (number : Nat) (line : Text) : Except Fault Entry :=
  match (Text.split (· == ':') line).map Text.trim with
  | [declaration, semantic, generated, _, _] =>
    if (bareName generated).isEmpty then .error (.emptyName number line)
    else (symbolOf number line declaration semantic).map fun symbol => ⟨bareName generated, symbol⟩
  | fields => .error (.fieldCount number fields.length line)

/-- A comment that is no variable line has no entry. -/
def readLine (numbered : Text × Nat) : Except Fault (Option Entry) :=
  let (line, index) := numbered
  if !Text.startsWith "//" line then .error (.notComment (index + 1) line)
  else if !Text.startsWith "//var" line then .ok none
  else (readVariable (index + 1) line).map some

def read (header : Text) : Progress Fault (Option Entry) :=
  .along readLine (Text.lines header).zipIdx

def entries (header : Text) : List Entry := (read header).done.filterMap id

def symbolsOf (entries : List Entry) : SymbolMap :=
  .ofPairs (entries.map fun entry => (entry.generated, entry.symbol))

def symbols (header : Text) : Except ShaderError SymbolMap :=
  match (read header).failure with
  | none => .ok (symbolsOf (entries header))
  | some fault => .error fault.error

def Entry.event (entry : Entry) : Log.Event :=
  ⟨.trace, .symbols, "Header maps '" ++ entry.generated ++ "' -> '" ++ entry.symbol.name ++ "'"⟩

def events (header : Text) : List Log.Event :=
  (entries header).map Entry.event ++
    match symbols header with
    | .ok symbols => [⟨.debug, .symbols, "Extracted " ++ Text.decimal symbols.size ++
        " symbol(s) from compiler header"⟩]
    | .error _ => []

end Header

end ShaderPair
