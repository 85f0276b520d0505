import ShaderPair.Settings.Value

/-! Settings files in TOML: `key = value` lines, comments and table headers. A document is read into
the paths of its keys and their values. -/

namespace ShaderPair.Settings.Document

abbrev KeyPath := List Text

structure Entry where
  path : KeyPath
  value : Value
  deriving DecidableEq, Repr

def isSpace (c : Char) : Bool := c == ' ' || c == '\t'

def skipSpaces (text : Text) : Text := text.dropWhile isSpace

def skipTrivia : Nat → Text → Text
  | 0, text => text
  | limit + 1, text =>
    match text.dropWhile fun c => isSpace c || c == '\n' || c == '\r' with
    | '#' :: rest => skipTrivia limit (rest.dropWhile (· != '\n'))
    | other => other

def skipAll (text : Text) : Text := skipTrivia (text.length + 1) text

def isBareKeyChar (c : Char) : Bool := c.isAlphanum || c == '_' || c == '-'

def readKeyPart? (text : Text) : Option (Text × Text) :=
  match text with
  | '"' :: rest => Text.readQuoted? (rest.length + 1) rest
  | '\'' :: rest =>
    match rest.dropWhile (· != '\'') with
    | _ :: after => some (rest.takeWhile (· != '\''), after)
    | [] => none
  | other =>
    if other.head?.any isBareKeyChar then
      some (other.takeWhile isBareKeyChar, other.dropWhile isBareKeyChar)
    else none

def readKey? : Nat → Text → Option (KeyPath × Text)
  | 0, _ => none
  | limit + 1, text => do
    let (part, rest) ← readKeyPart? (skipSpaces text)
    match skipSpaces rest with
    | '.' :: rest => do
      let (parts, rest) ← readKey? limit rest
      some (part :: parts, rest)
    | rest => some ([part], rest)

def key? (text : Text) : Option (KeyPath × Text) := readKey? (text.length + 1) text

def isNumeralChar (c : Char) : Bool :=
  c.isAlphanum || c == '_' || c == '+' || c == '-' || c == '.'

/-- Whether each underscore stands between two digits. -/
def areSpaced (isDigit : Char → Bool) (text : Text) : Bool :=
  let groups := Text.split (· == '_') text
  (groups.drop 1).all (·.head?.any isDigit) && groups.dropLast.all (·.getLast?.any isDigit)

def withoutUnderscores (text : Text) : Text := text.filter (· != '_')

def withoutSign (text : Text) : Text :=
  match text with
  | '+' :: rest | '-' :: rest => rest
  | rest => rest

def startsWell (digits : Text) : Bool :=
  match digits with
  | '0' :: next :: _ => !next.isDigit
  | first :: _ => first.isDigit
  | [] => false

def basedNumeral? (text : Text) : Option Int :=
  let value? (base : Nat) (digits : Text) : Option Int := do
    let values ← digits.mapM Text.hexDigit?
    let value := values.foldl (fun sum digit => base * sum + digit) 0
    if digits.isEmpty || values.any (base ≤ ·) || signedLimit ≤ value then none
    else some value
  match text with
  | '0' :: 'x' :: digits => value? 16 digits
  | '0' :: 'o' :: digits => value? 8 digits
  | '0' :: 'b' :: digits => value? 2 digits
  | _ => none

/-- A decimal numeral with an exponent or a point; the point has digits on both sides. -/
def floating? (text : Text) : Option Value :=
  let marked := text.any fun c => c == '.' || c == 'e' || c == 'E'
  let pointed := match Text.cut? "." text with
    | some (_, fraction) => fraction.head?.any Char.isDigit
    | none => true
  if marked && pointed then (Text.Binary.read? text).map (.float ·.shown) else none

def special? (text : Text) : Option Value :=
  let unsigned := withoutSign text
  if unsigned == ("nan" : Text) then some (.float "NaN")
  else if unsigned == ("inf" : Text) then
    some (.float (if Text.startsWith "-" text then "-inf" else "inf"))
  else none

def decimalNumeral? (text : Text) : Option Value :=
  let digits := withoutUnderscores text
  if areSpaced Char.isDigit text && startsWell (withoutSign digits) then
    ((readSigned? digits).map .signed) <|> floating? digits
  else none

def numeral? (text : Text) : Option Value :=
  let based := if areSpaced (Text.hexDigit? · |>.isSome) text then
      basedNumeral? (withoutUnderscores text) else none
  based.map .signed <|> decimalNumeral? text <|> special? text

/-- A value, and the text after it. Values nest at most `limit` deep. -/
def readValue? : Nat → Text → Option (Value × Text)
  | 0, _ => none
  | limit + 1, text =>
    let skipValue? (inner : Text) : Option Text :=
      (readValue? limit (skipAll inner)).map fun (_, rest) => skipAll rest
    let skipPair? (inner : Text) : Option Text := do
      let (_, rest) ← key? (skipAll inner)
      match rest with
      | '=' :: rest => skipValue? rest
      | _ => none
    match Text.after? "true" text, Text.after? "false" text, text with
    | some rest, _, _ => some (.flag true, rest)
    | none, some rest, _ => some (.flag false, rest)
    | none, none, '"' :: rest =>
      (Text.readQuoted? (rest.length + 1) rest).map fun (value, rest) => (.text value, rest)
    | none, none, '\'' :: rest =>
      let value := rest.takeWhile (· != '\'')
      match rest.dropWhile (· != '\'') with
      | _ :: after => if value.any (· == '\n') then none else some (.text value, after)
      | [] => none
    | none, none, '[' :: rest =>
      let rest := skipAll rest
      (readSeries? skipAll skipValue? ']' (rest.length + 1) rest).map (.sequence, ·)
    | none, none, '\x7b' :: rest =>
      let rest := skipAll rest
      (readSeries? skipAll skipPair? '\x7d' (rest.length + 1) rest).map (.map, ·)
    | none, none, other =>
      (numeral? (other.takeWhile isNumeralChar)).map fun value =>
        (value, other.dropWhile isNumeralChar)

def endLine? (text : Text) : Option Text :=
  match skipSpaces text with
  | [] => some []
  | '#' :: rest => some (rest.dropWhile (· != '\n'))
  | '\n' :: rest => some rest
  | '\r' :: '\n' :: rest => some rest
  | _ => none

/-- A table header: the tables it opens, and whether it adds one to a sequence of tables. -/
def readHeader? (text : Text) : Option (KeyPath × Bool × Text) := do
  let isMany := Text.startsWith "[" text
  let (path, rest) ← key? (if isMany then text.drop 1 else text)
  let rest ← Text.after? (if isMany then "]]" else "]") rest
  let rest ← endLine? rest
  some (path, isMany, rest)

def readEntries? : Nat → KeyPath → Text → Option (List Entry)
  | 0, _, _ => none
  | limit + 1, tables, text =>
    match skipAll text with
    | [] => some []
    | '[' :: rest => do
      let (path, isMany, rest) ← readHeader? rest
      let entries ← readEntries? limit path rest
      some (⟨path, if isMany then .sequence else .map⟩ :: entries)
    | line => do
      let (path, rest) ← key? line
      let rest ← Text.after? "=" rest
      let (value, rest) ← readValue? (rest.length + 1) (skipSpaces rest)
      let rest ← endLine? rest
      let entries ← readEntries? limit tables rest
      some (⟨tables ++ path, value⟩ :: entries)

/-- A document may start with a byte order mark. -/
def withoutMark (text : Text) : Text := if text.head? == some '\uFEFF' then text.drop 1 else text

def read? (text : Text) : Option (List Entry) := readEntries? (text.length + 1) [] (withoutMark text)

/-- The value at the top of a document; keys below it make it a map. -/
def get? (entries : List Entry) (key : Text) : Option Value :=
  match entries.find? fun entry => entry.path.head? == some key with
  | some entry => some (if entry.path.length == 1 then entry.value else .map)
  | none => none

end ShaderPair.Settings.Document
