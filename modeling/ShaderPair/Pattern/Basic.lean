import ShaderPair.CharSet.Basic
import ShaderPair.Text.Word

/-! Patterns: regular expressions, which may match anywhere in a text. A pattern leads from the places
where a match may begin to the places where it may end. -/

namespace ShaderPair

inductive WordEdge where
  | border
  | noBorder
  | start
  | finish
  | startHalf
  | finishHalf
  deriving DecidableEq, Repr

def WordEdge.holds (wordBefore wordAfter : Bool) : WordEdge → Bool
  | border => wordBefore != wordAfter
  | noBorder => wordBefore == wordAfter
  | start => !wordBefore && wordAfter
  | finish => wordBefore && !wordAfter
  | startHalf => !wordBefore
  | finishHalf => !wordAfter

inductive Look where
  | textStart
  | textEnd
  | lineStart
  | lineEnd
  /-- Lines may end in carriage returns too, but not between one and its line feed. -/
  | anyLineStart
  | anyLineEnd
  | word (edge : WordEdge)
  | asciiWord (edge : WordEdge)
  deriving DecidableEq, Repr

def Look.holds (before after : Option Char) : Look → Bool
  | textStart => before.isNone
  | textEnd => after.isNone
  | lineStart => before.all (· == '\n')
  | lineEnd => after.all (· == '\n')
  | anyLineStart => before.all fun c => c == '\n' || (c == '\r' && after != some '\n')
  | anyLineEnd => after.all fun c => c == '\r' || (c == '\n' && before != some '\r')
  | word position => position.holds (before.any Text.isWordChar) (after.any Text.isWordChar)
  | asciiWord position => position.holds (before.any isAsciiWord) (after.any isAsciiWord)
where
  isAsciiWord (c : Char) : Bool := c.isAlphanum || c == '_'

inductive Pattern where
  | nothing
  | one (set : CharSet)
  | look (condition : Look)
  | sequence (first second : Pattern)
  | choice (first second : Pattern)
  | repeated (inner : Pattern) (least : Nat) (most : Option Nat)
  | group (inner : Pattern)
  deriving DecidableEq, Repr

/-- A set of places in a text: for each place, from before the first character to after the last,
whether it belongs to the set. -/
abbrev Places := List Bool

namespace Places

def all (text : Text) : Places := true :: text.map fun _ => true

def union (left right : Places) : Places := List.zipWith (· || ·) left right

def meet (left right : Places) : Places := List.zipWith (· && ·) left right

def looking (look : Look) (text : Text) : Places :=
  List.zipWith (fun before after => look.holds before after) (none :: text.map some) (text.map some ++ [none])

def advance (set : CharSet) (text : Text) (places : Places) : Places :=
  false :: List.zipWith (fun here c => here && set.contains c) places text

/-- What the given places lead to in at most so many steps, which end early when a step adds nothing. -/
def closure (step : Places → Places) : Nat → Places → Places
  | 0, reached => reached
  | limit + 1, reached =>
    let grown := reached.union (step reached)
    if grown == reached then reached else closure step limit grown

/-- Exactly so many steps; a step that changes nothing ends them. -/
def steps (step : Places → Places) : Nat → Places → Places
  | 0, reached => reached
  | count + 1, reached =>
    let moved := step reached
    if moved == reached then reached else steps step count moved

end Places

namespace Pattern

/-- The places where a match can end that begins at one of the given places. As many repetitions as
the text has places reach whatever any number of them reaches. -/
def ends (text : Text) : Pattern → Places → Places
  | nothing, places => places
  | one set, places => places.advance set text
  | look condition, places => places.meet (.looking condition text)
  | sequence first second, places => ends text second (ends text first places)
  | choice first second, places => (ends text first places).union (ends text second places)
  | repeated inner least most, places =>
    let begun := places.steps (ends text inner) least
    let further := match most with
      | some most => most - least
      | none => text.length + 1
    begun.closure (ends text inner) further
  | group inner, places => ends text inner places

def isIn (pattern : Pattern) (text : Text) : Bool := (pattern.ends text (.all text)).any id

end Pattern

end ShaderPair
