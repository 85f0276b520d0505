import ShaderPair.Settings.Value
import ShaderPair.Text.Utf8

/-! Settings from environment variables. A variable's text is taken for a number, a truth value, a
quoted text, a sequence or a map where it has that form as a whole, and for plain text otherwise. -/

namespace ShaderPair.Settings.Environment

def isAsciiBlank (c : Char) : Bool :=
  c == ' ' || c == '\t' || c == '\n' || c == '\r' || c == '\x0c'

def skipBlanks (text : Text) : Text := text.dropWhile isAsciiBlank

def isSeparator (c : Char) : Bool :=
  c == ',' || c == '\x7b' || c == '\x7d' || c == '[' || c == ']'

def isKeyChar (c : Char) : Bool := c.isAlphanum || c == '_' || c == '-'

def bareValue (text : Text) : Value :=
  match if text.any (· == '.') then Text.Binary.read? text else none with
  | some numeral => .float numeral.shown
  | none =>
    match Text.readWord? text with
    | some value => .unsigned value
    | none =>
      match readSigned? text with
      | some value => .signed value
      | none => .text text

def takeBytes : Nat → Text → Text
  | _, [] => []
  | room, c :: rest =>
    let size := (Text.toUtf8 [c]).length
    if size ≤ room then c :: takeBytes (room - size) rest else []

/-- A quoted text whose opening quote was read, and the text after it. Escapes make the value be
put together anew, and of the characters before the first one only as many bytes are kept as there
are characters. -/
def readQuoted? (text : Text) : Option (Text × Text) :=
  (Text.readQuoted? (text.length + 1) text).map fun (value, rest) =>
    let plain := text.takeWhile fun c => c != '\\' && c != '"'
    if (text.drop plain.length).head? == some '\\' then
      (takeBytes plain.length plain ++ value.drop plain.length, rest)
    else (value, rest)

def skipKey? (text : Text) : Option Text :=
  match text with
  | '"' :: rest => (readQuoted? rest).map (·.2)
  | other => if other.head?.any isKeyChar then some (other.dropWhile isKeyChar) else none

def skipPair? (skipValue? : Text → Option Text) (text : Text) : Option Text := do
  let rest ← skipKey? (skipBlanks text)
  match skipBlanks rest with
  | '=' :: rest => skipValue? rest
  | _ => none

/-- A value at the start of a text, and the text after it. Values nest at most `limit` deep. -/
def readValue? : Nat → Text → Option (Value × Text)
  | 0, _ => none
  | limit + 1, text =>
    let skipValue? (inner : Text) : Option Text := (readValue? limit inner).map (·.2)
    let text := skipBlanks text
    let read : Option (Value × Text) :=
      match Text.after? "true" text, Text.after? "false" text, text with
      | some rest, _, _ => some (.flag true, rest)
      | none, some rest, _ => some (.flag false, rest)
      | none, none, '\x7b' :: rest =>
        (readSeries? id (skipPair? skipValue?) '\x7d' (rest.length + 1) rest).map (.map, ·)
      | none, none, '[' :: rest =>
        (readSeries? id skipValue? ']' (rest.length + 1) rest).map (.sequence, ·)
      | none, none, '"' :: rest =>
        (readQuoted? rest).map fun (value, rest) => (.text value, rest)
      | none, none, '\'' :: c :: '\'' :: rest => some (.text [c], rest)
      | none, none, '\'' :: _ => none
      | none, none, other =>
        some (bareValue (Text.trim (other.takeWhile (!isSeparator ·))), other.dropWhile (!isSeparator ·))
    read.map fun (value, rest) => (value, skipBlanks rest)

def valueOf (text : Text) : Value :=
  match readValue? (text.length + 1) text with
  | some (value, []) => value
  | _ => .text text

def opening : Text := "CG2GLSL_"

/-- The names a variable leads through, in lower case, with dots between them. Blanks around the
variable and around its names do not count, and no name is empty. -/
def namesOf? (variableName : Text) : Option (List Text) :=
  let trimmed := Text.trim variableName
  let names := Text.split (· == '.') (Text.lower (Text.trim (trimmed.drop opening.length)))
  if Text.sameLetters (trimmed.take opening.length) opening && !names.any List.isEmpty then some names
  else none

/-- The key of a variable and its value; names after the key make the value a map. -/
def settingOf? (assignment : Text × Text) : Option (Text × Value) :=
  match namesOf? assignment.1 with
  | some [key] => some (key, valueOf assignment.2)
  | some (key :: _) => some (key, .map)
  | _ => none

/-- The last variable for a key gives its value. -/
def get? (environment : List (Text × Text)) (key : Text) : Option Value :=
  (environment.filterMap settingOf?).reverse.lookup key

end ShaderPair.Settings.Environment
