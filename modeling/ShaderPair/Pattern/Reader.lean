import ShaderPair.Pattern.Reader.Class
import ShaderPair.Pattern.Reader.Group
import ShaderPair.Pattern.Reader.Repetition

/-! The form of a pattern from its text. -/

namespace ShaderPair.Pattern

structure Level where
  first : Position
  /-- The finished alternatives, the latest first. -/
  finished : List Form
  start : Position
  /-- The parts of the current alternative, the latest first. -/
  parts : List Form

namespace Level

def startAt (position : Position) : Level := ⟨position, [], position, []⟩

def add (level : Level) (part : Form) : Level := { level with parts := part :: level.parts }

def current (level : Level) (stop : Position) : Form := .ofParts ⟨level.start, stop⟩ level.parts.reverse

def alternate (level : Level) (stop next : Position) : Level :=
  { level with finished := level.current stop :: level.finished, start := next, parts := [] }

def form (level : Level) (stop : Position) : Form :=
  if level.finished.isEmpty then level.current stop
  else .choice ⟨level.first, stop⟩ (level.finished.reverse ++ [level.current stop])

end Level

/-- A group that is being read: its opening, what it is in, and whether blanks are ignored there. -/
structure OpenGroup where
  span : Span
  captures : Bool
  changes : FlagChanges
  outer : Level
  ignoresBlanks : Bool

structure Progress where
  cursor : Cursor
  level : Level
  /-- The groups around the cursor, the innermost first. -/
  groups : List OpenGroup
  names : List (Text × Span)

namespace Progress

def ofText (text : Text) : Progress := ⟨.ofText text, .startAt .start, [], []⟩

def add (progress : Progress) (part : Form) (cursor : Cursor) : Progress :=
  { progress with cursor, level := progress.level.add part }

def ignores (before : Bool) (changes : FlagChanges) : Bool := (changes.lookup .ignoreBlanks).getD before

def readOpening (progress : Progress) : Except Fault Progress := do
  let (opening, names, after) ← Opening.read progress.names progress.cursor
  let blanks := progress.cursor.ignoresBlanks
  match opening with
  | .flags changes =>
    return { progress.add (.flags changes) { after with ignoresBlanks := ignores blanks changes } with names }
  | .group span captures changes =>
    return {
      cursor := { after with ignoresBlanks := ignores blanks changes }
      level := .startAt after.position
      groups := ⟨span, captures, changes, progress.level, blanks⟩ :: progress.groups
      names }

def readClosing (progress : Progress) : Except Fault Progress :=
  let cursor := progress.cursor
  match progress.groups with
  | [] => .error ⟨.groupUnopened, cursor.charSpan, none⟩
  | inner :: groups =>
    let after := { cursor.advance with ignoresBlanks := inner.ignoresBlanks }
    let form := Form.group (after.spanFrom inner.span.start) inner.captures inner.changes
      (progress.level.form cursor.position)
    .ok { progress with cursor := after, level := inner.outer.add form, groups }

def repeatLatest (progress : Progress) (read : Except Fault (Repetition × Cursor)) :
    Except Fault Progress :=
  let missing : Fault := ⟨.repetitionMissing, progress.cursor.emptySpan, none⟩
  match progress.level.parts with
  | [] => .error missing
  | part :: parts =>
    match part.start? with
    | none => .error missing
    | some start => do
      let (repetition, after) ← read
      let form := Form.repeated (after.spanFrom start) part repetition.least repetition.most
      return { progress with cursor := after, level := { progress.level with parts := form :: parts } }

def escapeForm : Escape → Form
  | .char literal => .char literal
  | .assertion span assertion => .assertion span assertion
  | .kind span charKind negated => .charClass (.kind span charKind negated)
  | .property span name negated => .charClass (.property span name negated)

def readPart (progress : Progress) (c : Char) : Except Fault Progress :=
  let cursor := progress.cursor
  let after := cursor.advance
  match Repetition.read? cursor with
  | some read => progress.repeatLatest read
  | none =>
    if c == '(' then progress.readOpening
    else if c == ')' then progress.readClosing
    else if c == '|' then
      .ok { progress with cursor := after, level := progress.level.alternate cursor.position after.position }
    else if c == '[' then do
      let (form, after) ← readClass cursor
      return progress.add (.charClass form) after
    else if c == '\\' then do
      let (escape, after) ← Escape.read cursor
      return progress.add (escapeForm escape) after
    else if c == '.' then .ok (progress.add (.dot cursor.charSpan) after)
    else if c == '^' then .ok (progress.add (.assertion cursor.charSpan .lineStart) after)
    else if c == '$' then .ok (progress.add (.assertion cursor.charSpan .lineEnd) after)
    else .ok (progress.add (.char ⟨cursor.charSpan, c, false⟩) after)

def finish (progress : Progress) : Except Fault Form :=
  match progress.groups with
  | [] => .ok (progress.level.form progress.cursor.position)
  | inner :: _ => .error ⟨.groupUnclosed, inner.span, none⟩

/-- Read to the end; at most `limit` things are read. -/
def readFrom : Nat → Progress → Except Fault Form
  | 0, progress => progress.finish
  | limit + 1, progress =>
    let progress := { progress with cursor := progress.cursor.skipBlanks }
    match progress.cursor.next? with
    | none => progress.finish
    | some c => do readFrom limit (← progress.readPart c)

end Progress

def depthLimit : Nat := 250

def ClassForm.tooDeep? (depth : Nat) : ClassForm → Option Span
  | char _ | range _ _ | ascii _ _ _ | kind _ _ _ | property _ _ _ => none
  | bracketed span _ inner => if depthLimit ≤ depth then some span else inner.tooDeep? (depth + 1)
  | union span items =>
    match items with
    | [] => none
    | items => if depthLimit ≤ depth then some span else anyTooDeep? (depth + 1) items
  | operation span _ left right =>
    if depthLimit ≤ depth then some span
    else (left.tooDeep? (depth + 1)).orElse fun _ => right.tooDeep? (depth + 1)
where
  anyTooDeep? (depth : Nat) : List ClassForm → Option Span
    | [] => none
    | item :: items => (item.tooDeep? depth).orElse fun _ => anyTooDeep? depth items

def Form.tooDeep? (depth : Nat) : Form → Option Span
  | empty | flags _ | char _ | dot _ | assertion _ _ => none
  | charClass form => form.tooDeep? depth
  | repeated span inner _ _ | group span _ _ inner =>
    if depthLimit ≤ depth then some span else inner.tooDeep? (depth + 1)
  | choice span forms | sequence span forms =>
    if depthLimit ≤ depth then some span else anyTooDeep? (depth + 1) forms
where
  anyTooDeep? (depth : Nat) : List Form → Option Span
    | [] => none
    | form :: forms => (form.tooDeep? depth).orElse fun _ => anyTooDeep? depth forms

def Form.read (text : Text) : Except Fault Form := do
  let form ← Progress.readFrom (text.length + 1) (.ofText text)
  match form.tooDeep? 0 with
  | some span => throw ⟨.nestedTooDeep depthLimit, span, none⟩
  | none => return form

end ShaderPair.Pattern
