import ShaderPair.Pattern.Reader.Escape

/-! Classes of characters between brackets: characters, ranges, named classes and classes inside
classes, with set operations that bind from the left. -/

namespace ShaderPair.Pattern

def asciiClass? (name : Text) : Option (List (Nat × Nat)) :=
  match String.ofList name with
  | "alnum" => some [(0x30, 0x39), (0x41, 0x5A), (0x61, 0x7A)]
  | "alpha" => some [(0x41, 0x5A), (0x61, 0x7A)]
  | "ascii" => some [(0x0, 0x7F)]
  | "blank" => some [(0x9, 0x9), (0x20, 0x20)]
  | "cntrl" => some [(0x0, 0x1F), (0x7F, 0x7F)]
  | "digit" => some [(0x30, 0x39)]
  | "graph" => some [(0x21, 0x7E)]
  | "lower" => some [(0x61, 0x7A)]
  | "print" => some [(0x20, 0x7E)]
  | "punct" => some [(0x21, 0x2F), (0x3A, 0x40), (0x5B, 0x60), (0x7B, 0x7E)]
  | "space" => some [(0x9, 0xD), (0x20, 0x20)]
  | "upper" => some [(0x41, 0x5A)]
  | "word" => some [(0x30, 0x39), (0x41, 0x5A), (0x5F, 0x5F), (0x61, 0x7A)]
  | "xdigit" => some [(0x30, 0x39), (0x41, 0x46), (0x61, 0x66)]
  | _ => none

structure ClassLevel where
  /-- Its opening, up to the first thing that can only stand inside. -/
  opening : Span
  negated : Bool
  pending : Option (SetOperation × ClassForm)
  start : Position
  /-- The items of the current side, the latest first. -/
  items : List ClassForm

namespace ClassLevel

def add (level : ClassLevel) (item : ClassForm) : ClassLevel :=
  { level with items := item :: level.items }

def side (level : ClassLevel) : ClassForm :=
  match level.items.reverse, level.items.head? with
  | [item], _ => item
  | first :: others, some last => .union ⟨first.span.start, last.span.stop⟩ (first :: others)
  | _, _ => .union ⟨level.start, level.start⟩ []

def form (level : ClassLevel) : ClassForm :=
  match level.pending with
  | none => level.side
  | some (kind, left) => .operation ⟨left.span.start, level.side.span.stop⟩ kind left level.side

def operate (level : ClassLevel) (kind : SetOperation) (start : Position) : ClassLevel :=
  { level with pending := some (kind, level.form), start, items := [] }

def unclosed (level : ClassLevel) : Fault := ⟨.classUnclosed, level.opening, none⟩

/-- Hyphens at the start of a class, which are characters of it; at most `limit` are read. -/
def readHyphens (opening : Position) : Nat → Cursor → Except Fault (List ClassForm × Cursor)
  | 0, cursor => .ok ([], cursor)
  | limit + 1, cursor =>
    if cursor.next? == some '-' then
      if cursor.step.isAtEnd then .error ⟨.classUnclosed, ⟨opening, opening⟩, none⟩
      else do
        let (items, after) ← readHyphens opening limit cursor.step
        return (.char ⟨cursor.charSpan, '-', false⟩ :: items, after)
    else .ok ([], cursor)

/-- The opening of a class. A bracket that closes at once is a character of the class. -/
def openAt (cursor : Cursor) : Except Fault (ClassLevel × Cursor) := do
  let opening := cursor.position
  let cursor ← inside opening cursor.step
  let negated := cursor.next? == some '^'
  let cursor ← if negated then inside opening cursor.step else .ok cursor
  let (hyphens, after) ← readHyphens opening cursor.rest.length cursor
  if hyphens.isEmpty && after.next? == some ']' then
    let closed ← inside opening after.step
    return (⟨closed.spanFrom opening, negated, none, cursor.position,
      [.char ⟨after.charSpan, ']', false⟩]⟩, closed)
  else return (⟨after.spanFrom opening, negated, none, cursor.position, hyphens.reverse⟩, after)
where
  inside (opening : Position) (cursor : Cursor) : Except Fault Cursor :=
    if cursor.isAtEnd then .error ⟨.classUnclosed, cursor.spanFrom opening, none⟩ else .ok cursor

def ascii? (cursor : Cursor) : Option (ClassForm × Cursor) := do
  let inner ← Text.after? "[:" cursor.rest
  let negated := inner.head? == some '^'
  let inner := if negated then inner.drop 1 else inner
  let name := inner.takeWhile (· != ':')
  let rest ← Text.after? ":]" (inner.dropWhile (· != ':'))
  let runs ← asciiClass? name
  let after := cursor.advanceBy (cursor.rest.length - rest.length)
  return (.ascii (after.spanFrom cursor.position) runs negated, after)

def readItem (cursor : Cursor) : Except Fault (Escape × Cursor) :=
  match cursor.next? with
  | some '\\' => Escape.read cursor
  | some c => .ok (.char ⟨cursor.charSpan, c, false⟩, cursor.advance)
  | none => .error ⟨.classUnclosed, cursor.emptySpan, none⟩

def itemForm : Escape → Except Fault ClassForm
  | .char literal => .ok (.char literal)
  | .kind span charKind negated => .ok (.kind span charKind negated)
  | .property span name negated => .ok (.property span name negated)
  | .assertion span _ => .error ⟨.classEscape, span, none⟩

def bound : Escape → Except Fault Literal
  | .char literal => .ok literal
  | other => .error ⟨.classRangeBound, other.span, none⟩

/-- An item or a range. A hyphen before a closing bracket or another hyphen makes no range. -/
def readRange (level : ClassLevel) (cursor : Cursor) : Except Fault (ClassForm × Cursor) := do
  let (first, after) ← readItem cursor
  let after := after.skipBlanks
  if after.isAtEnd then throw level.unclosed
  if after.next? != some '-' || after.second? == some ']' || after.second? == some '-' then
    return (← itemForm first, after)
  let after := after.step
  if after.isAtEnd then throw level.unclosed
  let (last, after) ← readItem after
  let firstBound ← bound first
  let lastBound ← bound last
  if lastBound.char < firstBound.char then
    throw ⟨.classRangeOrder, ⟨firstBound.span.start, lastBound.span.stop⟩, none⟩
  return (.range firstBound lastBound, after)

def operation? (cursor : Cursor) : Option SetOperation :=
  match cursor.rest with
  | '&' :: '&' :: _ => some .intersection
  | '-' :: '-' :: _ => some .difference
  | '~' :: '~' :: _ => some .symmetricDifference
  | _ => none

/-- The rest of a class inside others, the innermost first; at most `limit` things are read. -/
def readFrom : Nat → Cursor → ClassLevel → List ClassLevel → Except Fault (ClassForm × Cursor)
  | 0, _, level, _ => .error level.unclosed
  | limit + 1, cursor, level, outer =>
    let cursor := cursor.skipBlanks
    match cursor.next? with
    | none => .error level.unclosed
    | some '[' =>
      match ascii? cursor with
      | some (form, after) => readFrom limit after (level.add form) outer
      | none => do
        let (nested, after) ← openAt cursor
        readFrom limit after nested (level :: outer)
    | some ']' =>
      let after := cursor.advance
      let form := ClassForm.bracketed (after.spanFrom level.opening.start) level.negated level.form
      match outer with
      | [] => .ok (form, after)
      | around :: outer => readFrom limit after (around.add form) outer
    | some _ =>
      match operation? cursor with
      | some kind =>
        let after := cursor.advanceBy 2
        readFrom limit after (level.operate kind after.position) outer
      | none => do
        let (form, after) ← readRange level cursor
        readFrom limit after (level.add form) outer

end ClassLevel

def readClass (cursor : Cursor) : Except Fault (ClassForm × Cursor) := do
  let (level, after) ← ClassLevel.openAt cursor
  ClassLevel.readFrom (after.rest.length + 1) after level []

end ShaderPair.Pattern
