import ShaderPair.Pattern.Cursor
import ShaderPair.Pattern.Form

/-! How often something is repeated. Whether a repetition takes much or little makes no difference to
where a pattern is found. -/

namespace ShaderPair.Pattern

structure Repetition where
  least : Nat
  most : Option Nat
  deriving DecidableEq, Repr

namespace Repetition

/-- One more than the largest number of repetitions that can be asked for. -/
def countLimit : Nat := 4294967296

/-- A number with blanks around it, or what is wrong with it, and what follows. -/
def readCount (cursor : Cursor) : Except Fault Nat × Cursor :=
  let start := cursor.advanceWhile Text.isBlank
  let (digits, after) := start.takeSpaced Char.isDigit start.rest.length
  let span := after.spanFrom start.position
  let (_, rest) := after.takeSpaced Text.isBlank after.rest.length
  if digits.isEmpty then (.error ⟨.countEmpty, span, none⟩, rest)
  else if Text.numeralValue digits < countLimit then (.ok (Text.numeralValue digits), rest)
  else (.error ⟨.decimalInvalid, span, none⟩, rest)

def dropLazy (cursor : Cursor) : Cursor := if cursor.next? == some '?' then cursor.advance else cursor

def readCounts (cursor : Cursor) : Except Fault (Repetition × Cursor) := do
  let start := cursor.position
  let unclosed := fun (place : Cursor) => (⟨.countUnclosed, place.spanFrom start, none⟩ : Fault)
  let opened := cursor.step
  if opened.isAtEnd then throw (unclosed opened)
  let (least, after) := readCount opened
  if after.isAtEnd then throw (unclosed after)
  if after.next? == some ',' then
    let after := after.step
    if after.isAtEnd then throw (unclosed after)
    if after.next? == some '\x7d' then return (⟨← least, none⟩, after)
    let least ← least
    let (most, after) := readCount after
    return (⟨least, some (← most)⟩, after)
  let count ← least
  return (⟨count, some count⟩, after)

def readBraced (cursor : Cursor) : Except Fault (Repetition × Cursor) := do
  let (repetition, closing) ← readCounts cursor
  if closing.next? != some '\x7d' then
    throw ⟨.countUnclosed, closing.spanFrom cursor.position, none⟩
  let after := dropLazy closing.step
  if repetition.most.any (· < repetition.least) then
    throw ⟨.countOrder, after.spanFrom cursor.position, none⟩
  return (repetition, after)

def read? (cursor : Cursor) : Option (Except Fault (Repetition × Cursor)) :=
  match cursor.next? with
  | some '*' => some (.ok (⟨0, none⟩, dropLazy cursor.advance))
  | some '+' => some (.ok (⟨1, none⟩, dropLazy cursor.advance))
  | some '?' => some (.ok (⟨0, some 1⟩, dropLazy cursor.advance))
  | some '\x7b' => some (readBraced cursor)
  | _ => none

end Repetition

end ShaderPair.Pattern
