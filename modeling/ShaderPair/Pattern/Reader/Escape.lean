import ShaderPair.Pattern.Cursor
import ShaderPair.Pattern.Form
import ShaderPair.Text.Escape

/-! What follows a backslash: a character, a condition on a place, or a class of characters. -/

namespace ShaderPair.Pattern

inductive Escape where
  | char (literal : Literal)
  | assertion (span : Span) (assertion : Assertion)
  | kind (span : Span) (charKind : CharKind) (negated : Bool)
  | property (span : Span) (name : PropertyName) (negated : Bool)
  deriving DecidableEq, Repr

namespace Escape

def span : Escape → Span
  | char literal => literal.span
  | assertion span _ | kind span _ _ | property span _ _ => span

def isMark (c : Char) : Bool := c.toNat < 128 && !c.isAlphanum && c != '<' && c != '>'

def control? (c : Char) : Option Char :=
  if c == 'a' then some '\x07'
  else if c == 'f' then some '\x0c'
  else if c == 't' then some '\t'
  else if c == 'n' then some '\n'
  else if c == 'r' then some '\r'
  else if c == 'v' then some '\x0b'
  else none

def assertion? (c : Char) : Option Assertion :=
  if c == 'A' then some .textStart
  else if c == 'z' then some .textEnd
  else if c == 'b' then some (.word .border)
  else if c == 'B' then some (.word .noBorder)
  else if c == '<' then some (.word .start)
  else if c == '>' then some (.word .finish)
  else none

def charKind? (c : Char) : Option CharKind :=
  if c == 'd' || c == 'D' then some .digit
  else if c == 's' || c == 'S' then some .blank
  else if c == 'w' || c == 'W' then some .word
  else none

def edge? (name : Text) : Option WordEdge :=
  if name == "start" then some .start
  else if name == "end" then some .finish
  else if name == "start-half" then some .startHalf
  else if name == "end-half" then some .finishHalf
  else none

/-- The name in braces after a `\b`. A brace in which no name starts is left to repetition. -/
def readEdge (start : Position) (cursor : Cursor) : Except Fault (WordEdge × Cursor) :=
  match cursor.next? with
  | some '\x7b' =>
    let inner := cursor.step
    match inner.next? with
    | none => .error ⟨.boundaryIncomplete, inner.spanFrom start, none⟩
    | some c =>
      if !isNameChar c then .ok (.border, cursor)
      else
        let (name, after) := inner.takeSpaced isNameChar inner.rest.length
        if after.next? != some '\x7d' then
          .error ⟨.boundaryUnclosed, after.spanFrom cursor.position, none⟩
        else match edge? name with
          | some edge => .ok (edge, after.advance)
          | none => .error ⟨.boundaryUnknown, after.spanFrom inner.position, none⟩
  | _ => .ok (.border, cursor)
where
  isNameChar (c : Char) : Bool := c.isAlpha || c == '-'

/-- So many hexadecimal digits; before all but the first something was read already. -/
def readDigits (isFirst : Bool) : Nat → Cursor → Except Fault (Text × Cursor)
  | 0, cursor => .ok ([], cursor.step)
  | count + 1, cursor =>
    let cursor := if isFirst then cursor else cursor.step
    match cursor.next? with
    | none => .error ⟨.escapeIncomplete, cursor.emptySpan, none⟩
    | some c =>
      if (Text.hexDigit? c).isNone then .error ⟨.hexDigit, cursor.charSpan, none⟩
      else do
        let (digits, cursor) ← readDigits false count cursor
        return (c :: digits, cursor)

def hexLiteral (digits : Text) (digitSpan span : Span) (isByte : Bool) : Except Fault Literal :=
  match Text.hexChar? digits with
  | some c => .ok ⟨span, c, isByte⟩
  | none => .error ⟨.hexInvalid, digitSpan, none⟩

def readBraced (start : Position) (cursor : Cursor) : Except Fault (Literal × Cursor) :=
  let opened := cursor.step
  let (digits, closing) := opened.takeSpaced (fun c => (Text.hexDigit? c).isSome) opened.rest.length
  match closing.next? with
  | none => .error ⟨.escapeIncomplete, closing.spanFrom cursor.position, none⟩
  | some '\x7d' =>
    let after := closing.step
    if digits.isEmpty then .error ⟨.hexEmpty, after.spanFrom cursor.position, none⟩
    else do
      let literal ←
        hexLiteral digits (closing.spanFrom cursor.advance.position) (after.spanFrom start) false
      return (literal, after)
  | some _ => .error ⟨.hexDigit, closing.charSpan, none⟩

def readHex (start : Position) (letter : Char) (cursor : Cursor) : Except Fault (Literal × Cursor) :=
  let count := if letter == 'x' then 2 else if letter == 'u' then 4 else 8
  let cursor := cursor.step
  match cursor.next? with
  | none => .error ⟨.escapeIncomplete, cursor.emptySpan, none⟩
  | some '\x7b' => readBraced start cursor
  | some _ => do
    let (digits, after) ← readDigits true count cursor
    let literal ←
      hexLiteral digits (after.spanFrom cursor.position) (after.spanFrom start) (letter == 'x')
    return (literal, after)

def propertyName (text : Text) : PropertyName :=
  let parts := ((Text.cut? "!=" text).orElse fun _ => Text.cut? ":" text).orElse fun _ =>
    Text.cut? "=" text
  match parts with
  | some (asked, value) => .value asked value
  | none => .name text

/-- A property by one letter, or by a name between braces. -/
def readProperty (start : Position) (negated : Bool) (cursor : Cursor) :
    Except Fault (Escape × Cursor) :=
  let cursor := cursor.step
  match cursor.next? with
  | none => .error ⟨.escapeIncomplete, cursor.emptySpan, none⟩
  | some '\\' => .error ⟨.propertyInvalid, cursor.charSpan, none⟩
  | some '\x7b' =>
    let opened := cursor.step
    let (name, closing) := opened.takeSpaced (· != '\x7d') opened.rest.length
    if closing.isAtEnd then .error ⟨.escapeIncomplete, closing.emptySpan, none⟩
    else
      let after := closing.advance
      .ok (.property (after.spanFrom start) (propertyName name) negated, after)
  | some c =>
    let after := cursor.step
    .ok (.property (after.spanFrom start) (.name [c]) negated, after)

def read (cursor : Cursor) : Except Fault (Escape × Cursor) :=
  let start := cursor.position
  let cursor := cursor.advance
  match cursor.next? with
  | none => .error ⟨.escapeIncomplete, cursor.spanFrom start, none⟩
  | some c =>
    let after := cursor.advance
    let span := after.spanFrom start
    if c.isDigit then .error ⟨.backreference, span, none⟩
    else if c == 'x' || c == 'u' || c == 'U' then do
      let (literal, after) ← readHex start c cursor
      return (.char literal, after)
    else if c == 'p' || c == 'P' then readProperty start (c == 'P') cursor
    else if let some charKind := charKind? c then .ok (.kind span charKind c.isUpper, after)
    else if isMark c then .ok (.char ⟨span, c, false⟩, after)
    else if let some control := control? c then .ok (.char ⟨span, control, false⟩, after)
    else if c == 'b' then do
      let (edge, after) ← readEdge start after
      return (.assertion (after.spanFrom start) (.word edge), after)
    else if let some condition := assertion? c then .ok (.assertion span condition, after)
    else .error ⟨.escapeUnknown, span, none⟩

end Escape

end ShaderPair.Pattern
