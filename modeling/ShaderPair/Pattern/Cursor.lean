import ShaderPair.Pattern.Fault

/-! A place in the text of a pattern that is being read. Where blanks are ignored, so are comments,
from a number sign to the end of the line. -/

namespace ShaderPair.Pattern

structure Cursor where
  rest : Text
  position : Position
  ignoresBlanks : Bool
  deriving DecidableEq, Repr

namespace Cursor

def ofText (text : Text) : Cursor := ⟨text, .start, false⟩

def next? (cursor : Cursor) : Option Char := cursor.rest.head?

def isAtEnd (cursor : Cursor) : Bool := cursor.rest.isEmpty

def advance (cursor : Cursor) : Cursor :=
  match cursor.rest with
  | [] => cursor
  | c :: rest => { cursor with rest, position := cursor.position.after c }

def advanceBy (count : Nat) (cursor : Cursor) : Cursor :=
  { cursor with
    rest := cursor.rest.drop count
    position := (cursor.rest.take count).foldl Position.after cursor.position }

def advanceWhile (test : Char → Bool) (cursor : Cursor) : Cursor :=
  cursor.advanceBy (cursor.rest.takeWhile test).length

def blankCount (inComment : Bool) : Text → Nat
  | [] => 0
  | c :: rest =>
    if inComment then blankCount (c != '\n') rest + 1
    else if Text.isBlank c then blankCount false rest + 1
    else if c == '#' then blankCount true rest + 1
    else 0

def skipBlanks (cursor : Cursor) : Cursor :=
  if cursor.ignoresBlanks then cursor.advanceBy (blankCount false cursor.rest) else cursor

def step (cursor : Cursor) : Cursor := cursor.advance.skipBlanks

def charSpan (cursor : Cursor) : Span := ⟨cursor.position, cursor.advance.position⟩

def emptySpan (cursor : Cursor) : Span := ⟨cursor.position, cursor.position⟩

def spanFrom (cursor : Cursor) (start : Position) : Span := ⟨start, cursor.position⟩

def after? (opening : Text) (cursor : Cursor) : Option Cursor :=
  if Text.startsWith opening cursor.rest then some (cursor.advanceBy opening.length) else none

/-- The character after the next one, past blanks if they are ignored. Of a comment only its first
sign counts as one. -/
def second? (cursor : Cursor) : Option Char :=
  let rest := cursor.rest.drop 1
  if cursor.ignoresBlanks then
    let visible := rest.filter (!Text.isBlank ·)
    match visible with
    | '#' :: c :: _ => some c
    | c :: _ => if c == '#' then rest.head? else some c
    | [] => rest.head?
  else rest.head?

/-- The characters that pass a test, with what is ignored between them left out; at most `limit`
are read. -/
def takeSpaced (test : Char → Bool) : Nat → Cursor → Text × Cursor
  | 0, cursor => ([], cursor)
  | limit + 1, cursor =>
    match cursor.next? with
    | some c =>
      if test c then
        let (taken, cursor) := takeSpaced test limit cursor.step
        (c :: taken, cursor)
      else ([], cursor)
    | none => ([], cursor)

end Cursor

end ShaderPair.Pattern
