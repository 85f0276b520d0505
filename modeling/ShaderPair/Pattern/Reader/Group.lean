import ShaderPair.CharSet.Derived
import ShaderPair.Pattern.Cursor
import ShaderPair.Pattern.Form

/-! Openings of groups: remembered ones, which may have a name, and those that only change flags. -/

namespace ShaderPair.Pattern

inductive Opening where
  /-- Flags for what follows, already closed. -/
  | flags (changes : FlagChanges)
  | group (span : Span) (captures : Bool) (changes : FlagChanges)
  deriving DecidableEq, Repr

namespace Opening

def flag? (c : Char) : Option Flag :=
  if c == 'i' then some .ignoreCase
  else if c == 'm' then some .multiLine
  else if c == 's' then some .dotAll
  else if c == 'U' then some .swapGreed
  else if c == 'u' then some .unicode
  else if c == 'R' then some .anyLineEnd
  else if c == 'x' then some .ignoreBlanks
  else none

/-- A flag, or the sign that clears the flags after it, and where it stands. -/
structure FlagItem where
  flag : Option Flag
  span : Span

def changes (items : List FlagItem) : FlagChanges :=
  let sets := items.takeWhile (·.flag.isSome)
  let clears := items.dropWhile (·.flag.isSome)
  (sets.filterMap (·.flag)).map (·, true) ++ (clears.filterMap (·.flag)).map (·, false)

def readItem (cursor : Cursor) (c : Char) : Except Fault FlagItem :=
  if c == '-' then .ok ⟨none, cursor.charSpan⟩
  else match flag? c with
    | some flag => .ok ⟨some flag, cursor.charSpan⟩
    | none => .error ⟨.flagUnknown, cursor.charSpan, none⟩

/-- Flags up to a colon or a closing parenthesis, after those already read, the latest first; at most
`limit` are read. -/
def readFlags : Nat → List FlagItem → Cursor → Except Fault (List FlagItem × Cursor)
  | 0, _, cursor => .error ⟨.flagMissing, cursor.emptySpan, none⟩
  | limit + 1, items, cursor =>
    match cursor.next? with
    | none => .error ⟨.flagMissing, cursor.emptySpan, none⟩
    | some c =>
      if c == ':' || c == ')' then
        match items.head? with
        | some ⟨none, span⟩ => .error ⟨.flagDangling, span, none⟩
        | _ => .ok (items.reverse, cursor)
      else do
        let item ← readItem cursor c
        match items.find? (·.flag == item.flag) with
        | some earlier =>
          let cause := if item.flag.isNone then Cause.flagNegatedTwice else .flagDuplicate
          throw ⟨cause, item.span, some earlier.span⟩
        | none => readFlags limit (item :: items) cursor.advance

def isNameChar (isFirst : Bool) (c : Char) : Bool :=
  c == '_' || CharSet.alphabetic.contains c ||
    (!isFirst && (c == '.' || c == '[' || c == ']' || (CharSet.ofCategories Category.numbers).contains c))

def readName (cursor : Cursor) : Except Fault (Text × Span × Cursor) :=
  let name := cursor.rest.takeWhile (· != '>')
  let stop := cursor.advanceBy name.length
  let valid := (name.take 1).takeWhile (isNameChar true) ++ (name.drop 1).takeWhile (isNameChar false)
  let first := (name.take 1).all (isNameChar true)
  let good := if first then valid.length else 0
  if good < name.length then .error ⟨.nameInvalid, (cursor.advanceBy good).charSpan, none⟩
  else if stop.isAtEnd then .error ⟨.nameUnclosed, stop.emptySpan, none⟩
  else if name.isEmpty then .error ⟨.nameEmpty, cursor.emptySpan, none⟩
  else .ok (name, stop.spanFrom cursor.position, stop.advance)

/-- Conditions on what stands before or after a place have openings of their own. -/
def lookAround? (cursor : Cursor) : Option Cursor :=
  (["?=", "?!", "?<=", "?<!"] : List String).findSome? fun opening => cursor.after? opening.toList

def readFlagged (opening marked : Cursor) (cursor : Cursor) : Except Fault (Opening × Cursor) := do
  if cursor.isAtEnd then throw ⟨.groupUnclosed, opening.charSpan, none⟩
  let (items, closing) ← readFlags (cursor.rest.length + 1) [] cursor
  if closing.next? == some ')' then
    if items.isEmpty then throw ⟨.repetitionMissing, marked.emptySpan, none⟩
    return (.flags (changes items), closing.advance)
  return (.group opening.charSpan false (changes items), closing.advance)

/-- An opening, with the names that are already taken, and the names taken after it. -/
def read (names : List (Text × Span)) (cursor : Cursor) :
    Except Fault (Opening × List (Text × Span) × Cursor) := do
  let inner := cursor.step
  if let some after := lookAround? inner then
    throw ⟨.lookAround, after.spanFrom cursor.position, none⟩
  match (inner.after? "?P<").orElse fun _ => inner.after? "?<" with
  | some after =>
    let (name, span, after) ← readName after
    if let some earlier := names.lookup name then throw ⟨.nameDuplicate, span, some earlier⟩
    return (.group cursor.charSpan true [], (name, span) :: names, after)
  | none =>
    match inner.after? "?" with
    | some after =>
      let (opening, after) ← readFlagged cursor inner after
      return (opening, names, after)
    | none => return (.group cursor.charSpan true [], names, inner)

end Opening

end ShaderPair.Pattern
