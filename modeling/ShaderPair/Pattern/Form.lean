import ShaderPair.Pattern.Basic
import ShaderPair.Pattern.Fault

/-! The forms in which a pattern is written, each with the stretch of text it takes. -/

namespace ShaderPair.Pattern

inductive CharKind where
  | digit
  | word
  | blank
  deriving DecidableEq, Repr

structure Literal where
  span : Span
  char : Char
  /-- Whether it is written as a byte, by two hexadecimal digits. -/
  isByte : Bool
  deriving DecidableEq, Repr

inductive PropertyName where
  | name (name : Text)
  | value (property value : Text)
  deriving DecidableEq, Repr

inductive SetOperation where
  | intersection
  | difference
  | symmetricDifference
  deriving DecidableEq, Repr

inductive ClassForm where
  | char (literal : Literal)
  | range (first last : Literal)
  | ascii (span : Span) (runs : List (Nat × Nat)) (negated : Bool)
  | kind (span : Span) (charKind : CharKind) (negated : Bool)
  | property (span : Span) (name : PropertyName) (negated : Bool)
  | bracketed (span : Span) (negated : Bool) (inner : ClassForm)
  | union (span : Span) (items : List ClassForm)
  | operation (span : Span) (kind : SetOperation) (left right : ClassForm)
  deriving Repr

def ClassForm.span : ClassForm → Span
  | char literal => literal.span
  | range first last => ⟨first.span.start, last.span.stop⟩
  | ascii span _ _ | kind span _ _ | property span _ _ | bracketed span _ _ | union span _
  | operation span _ _ _ => span

inductive Flag where
  | ignoreCase
  | multiLine
  | dotAll
  | swapGreed
  | unicode
  | anyLineEnd
  | ignoreBlanks
  deriving DecidableEq, Repr

abbrev FlagChanges := List (Flag × Bool)

/-- Conditions on a place, before flags decide what lines and words are. -/
inductive Assertion where
  | lineStart
  | lineEnd
  | textStart
  | textEnd
  | word (edge : WordEdge)
  deriving DecidableEq, Repr

inductive Form where
  | empty
  | flags (changes : FlagChanges)
  | char (literal : Literal)
  | dot (span : Span)
  | assertion (span : Span) (assertion : Assertion)
  | charClass (form : ClassForm)
  | repeated (span : Span) (inner : Form) (least : Nat) (most : Option Nat)
  | group (span : Span) (captures : Bool) (changes : FlagChanges) (inner : Form)
  | choice (span : Span) (forms : List Form)
  | sequence (span : Span) (forms : List Form)
  deriving Repr

namespace Form

def start? : Form → Option Position
  | empty | flags _ | choice _ _ | sequence _ _ => none
  | char literal => some literal.span.start
  | charClass form => some form.span.start
  | dot span | assertion span _ | repeated span _ _ _ | group span _ _ _ => some span.start

def ofParts (span : Span) : List Form → Form
  | [] => empty
  | [form] => form
  | forms => sequence span forms

end Form

end ShaderPair.Pattern
