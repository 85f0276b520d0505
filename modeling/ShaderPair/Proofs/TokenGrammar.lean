import Mathlib.Data.List.Chain
import ShaderPair.Proofs.Canonical

/-! The grammar of token lists. Each kind of token has its own spelling, and some tokens cannot stand side
by side because a reader would take characters of the second into the first. The main statement says that
nothing else matters: a list of tokens is what a text is split into exactly when it renders to that text,
its tokens are spelled like their kinds, and no neighbours run into each other. -/

namespace ShaderPair

namespace Text

def isNumeralRest (c : Char) : Bool := isIdentRest c || c == '.'

/-- A digit, then letters, digits, underscores and points. -/
def isNumeral : Text → Bool
  | [] => false
  | first :: rest => first.isDigit && rest.all isNumeralRest

/-- Blanks, at least one, none of which ends the line. -/
def isGap (text : Text) : Bool := !text.isEmpty && text.all isSpacing

/-- One character that is no letter, underscore, digit or blank. -/
def isMark : Text → Bool
  | [c] => !isIdentStart c && !c.isDigit && !isBlank c
  | _ => false

end Text

namespace Token

def isFormed (token : Token) : Bool :=
  match token.kind with
  | .ident => Text.isIdentifier token.text
  | .number => Text.isNumeral token.text
  | .space => Text.isGap token.text
  | .newline => token.text == ['\n']
  | .punct => Text.isMark token.text

/-- Whether the first of two neighbours would be read on into the second. -/
def runsInto (left right : Token) : Bool :=
  match left.kind, right.kind with
  | .ident, .ident | .ident, .number => true
  | .number, .ident | .number, .number => true
  | .number, .punct => right.text == ['.']
  | .space, .space => true
  | _, _ => false

end Token

/-- Tokens spelled like their kinds, each of which ends before the next one begins. -/
structure Grammatical (tokens : List Token) : Prop where
  formed : ∀ token ∈ tokens, token.isFormed = true
  apart : tokens.IsChain fun left right => left.runsInto right = false

instance (tokens : List Token) : Decidable (Grammatical tokens) :=
  decidable_of_iff ((∀ token ∈ tokens, token.isFormed = true) ∧
      tokens.IsChain fun left right => left.runsInto right = false)
    ⟨fun both => ⟨both.1, both.2⟩, fun grammatical => ⟨grammatical.formed, grammatical.apart⟩⟩

/-! The classes of characters, told apart. -/

def TokenKind.begins : TokenKind → Char → Bool
  | ident, c => isIdentStart c
  | number, c => c.isDigit
  | space, c => isSpacing c
  | newline, c => c == '\n'
  | punct, c => Text.isMark [c]

theorem TokenKind.ofFirst_eq_iff (kind : TokenKind) (c : Char) : ofFirst c = kind ↔ kind.begins c = true := by
  -- A line feed is a blank too, so it comes first; the other classes exclude each other.
  by_cases feed : c = '\n'
  · subst feed
    cases kind <;> decide
  · cases start : isIdentStart c with
    | true =>
      have digit := isDigit_of_isIdentStart start
      have blank := isBlank_of_isIdentStart start
      cases kind <;> simp [ofFirst, begins, isSpacing, Text.isMark, feed, start, digit, blank]
    | false =>
      cases digit : c.isDigit with
      | true =>
        have blank := isBlank_of_isDigit digit
        cases kind <;> simp [ofFirst, begins, isSpacing, Text.isMark, feed, start, digit, blank]
      | false =>
        cases blank : Text.isBlank c <;> cases kind <;>
          simp [ofFirst, begins, isSpacing, Text.isMark, feed, start, digit, blank]

/-! Spelling. -/

theorem Token.isFormed_cons (kind : TokenKind) (first : Char) (rest : Text) :
    isFormed ⟨kind, first :: rest⟩ = (kind.begins first && rest.all kind.continues) := by
  cases kind with
  | ident => rfl
  | number => rfl
  | space => rfl
  | newline => cases rest <;> simp [isFormed, TokenKind.begins, TokenKind.continues]
  | punct => cases rest <;> simp [isFormed, Text.isMark, TokenKind.begins, TokenKind.continues]

theorem Token.isFormed_nil (kind : TokenKind) : isFormed ⟨kind, []⟩ = false := by
  cases kind <;> rfl

theorem Token.spelled_iff_isFormed (token : Token) : token.Spelled ↔ token.isFormed = true := by
  obtain ⟨kind, text⟩ := token
  cases text with
  | nil => simp [Token.Spelled, Token.isFormed_nil]
  | cons first rest =>
    simp [Token.Spelled, Token.isFormed_cons, TokenKind.ofFirst_eq_iff]

/-! Neighbours. What lengthens a token depends on the kind of token it comes from. -/

theorem isIdentRest_of_isMark {c : Char} (mark : Text.isMark [c] = true) : isIdentRest c = false := by
  simp only [Text.isMark, Bool.and_eq_true, Bool.not_eq_true'] at mark
  rw [isIdentRest_eq, mark.1.1, mark.1.2, Bool.or_self]

namespace TokenKind

variable (kind : TokenKind) {c : Char}

theorem continues_isSpacing (spacing : isSpacing c = true) : kind.continues c = (kind == .space) := by
  have blank := (Bool.and_eq_true_iff.mp spacing).1
  have word := isIdentRest_of_isBlank blank
  have point : c ≠ '.' := by
    intro same
    subst same
    exact absurd blank (by decide)
  cases kind with
  | ident => exact word
  | number => simp [continues, word, point]
  | space => exact spacing
  | newline => rfl
  | punct => rfl

/-- Of all punctuation only the point lengthens a token, and only a number. -/
theorem continues_isMark (mark : Text.isMark [c] = true) : kind.continues c = (kind == .number && c == '.') := by
  have word := isIdentRest_of_isMark mark
  simp only [Text.isMark, Bool.and_eq_true, Bool.not_eq_true'] at mark
  cases kind with
  | ident => exact word
  | number => simp [continues, word]
  | space => simp [continues, isSpacing, mark.2]
  | newline => rfl
  | punct => rfl

end TokenKind

theorem Token.continues_first (left right : Token) {first : Char} {rest : Text} (text : right.text = first :: rest)
    (formed : right.isFormed = true) : left.kind.continues first = left.runsInto right := by
  obtain ⟨kind, _⟩ := right
  obtain ⟨before, _⟩ := left
  subst text
  have begins := formed
  rw [Token.isFormed_cons, Bool.and_eq_true] at begins
  cases kind with
  | ident =>
    rw [continues_identStart before begins.1]
    cases before <;> rfl
  | number =>
    have digit : first.isDigit = true := begins.1
    have word : isIdentRest first = true := by rw [isIdentRest_eq, digit, Bool.or_true]
    rw [continues_identRest before word]
    cases before <;> rfl
  | space =>
    rw [before.continues_isSpacing begins.1]
    cases before <;> rfl
  | newline =>
    rw [eq_of_beq begins.1, Lone.lineFeed.apart]
    cases before <;> rfl
  | punct =>
    rw [before.continues_isMark begins.1]
    cases rest with
    | nil => cases before <;> simp [Token.runsInto]
    | cons next rest => cases formed

theorem grammatical_cons {token : Token} {rest : List Token} :
    Grammatical (token :: rest) ↔
      token.isFormed = true ∧ (∀ next ∈ rest.head?, token.runsInto next = false) ∧ Grammatical rest := by
  constructor
  · intro grammatical
    obtain ⟨formed, apart⟩ := grammatical
    rw [List.forall_mem_cons] at formed
    rw [List.isChain_cons] at apart
    exact ⟨formed.1, apart.1, formed.2, apart.2⟩
  · intro parts
    obtain ⟨formed, apart, later⟩ := parts
    exact ⟨List.forall_mem_cons.mpr ⟨formed, later.formed⟩, List.isChain_cons.mpr ⟨apart, later.apart⟩⟩

theorem stops_iff_runsInto (token : Token) {rest : List Token} (grammatical : Grammatical rest) :
    (∀ c ∈ (render rest).head?, token.kind.continues c = false) ↔
      ∀ next ∈ rest.head?, token.runsInto next = false := by
  cases rest with
  | nil => simp [render]
  | cons next later =>
    have formed := grammatical.formed next List.mem_cons_self
    obtain ⟨first, run, text, _⟩ := next.spelled_iff_isFormed.mpr formed
    have same := token.continues_first next text formed
    simp [render_cons, text, same]

theorem canonical_iff_grammatical (tokens : List Token) : Canonical tokens ↔ Grammatical tokens := by
  induction tokens with
  | nil => exact ⟨fun _ => ⟨by simp, .nil⟩, fun _ => .nil⟩
  | cons token rest ih =>
    rw [canonical_cons, grammatical_cons, token.spelled_iff_isFormed, ih]
    apply and_congr_right
    intro _
    -- The first character after a token tells the kind of the next one only if that one is well formed.
    apply and_congr_left
    exact stops_iff_runsInto token

/-- The tokens of a text render to it, and no other list of tokens does that and follows the grammar. -/
theorem tokenize_by_grammar (text : Text) :
    render (tokenize text) = text ∧
      ∀ tokens, tokens = tokenize text ↔ render tokens = text ∧ Grammatical tokens := by
  refine ⟨render_tokenize text, ?_⟩
  intro tokens
  constructor
  · intro same
    subst same
    exact ⟨render_tokenize text, (canonical_iff_grammatical _).mp (canonical_tokenize text)⟩
  · intro both
    obtain ⟨rendered, grammatical⟩ := both
    subst rendered
    exact (tokenize_render ((canonical_iff_grammatical tokens).mpr grammatical)).symm

example : Grammatical [⟨.ident, "a2"⟩, ⟨.punct, "."⟩, ⟨.number, "0f"⟩] ∧
    ¬Grammatical [⟨.number, "2"⟩, ⟨.punct, "."⟩, ⟨.number, "0f"⟩] := by decide

end ShaderPair
