import ShaderPair.Proofs.EditedTokens
import ShaderPair.Proofs.TokenGrammar

/-! Renaming by words. Names can be replaced in a text as it stands, without making tokens of it: words are
looked up, numbers are passed over and every other character is kept. The main statement says that this
gives the text of the renamed tokens, and that the renamed tokens can be read from it exactly when the
names put in are identifiers. -/

namespace ShaderPair

namespace Text

/-- The text with every word that the table holds replaced. The letters of a number are no words. -/
def renameWords (names : Table Text) : Text → Text
  | [] => []
  | first :: rest =>
    if isIdentStart first then
      let word := first :: rest.takeWhile isIdentRest
      (names.get? word).getD word ++ renameWords names (rest.dropWhile isIdentRest)
    else if first.isDigit then
      first :: (rest.takeWhile isNumeralRest ++ renameWords names (rest.dropWhile isNumeralRest))
    else first :: renameWords names rest
termination_by text => text.length
decreasing_by
  · exact Nat.lt_succ_of_le (List.dropWhile_sublist _).length_le
  · exact Nat.lt_succ_of_le (List.dropWhile_sublist _).length_le
  · exact Nat.lt_succ_self _

section

variable (names : Table Text) {first : Char} {run after : Text}

theorem renameWords_word (start : isIdentStart first = true) (inside : ∀ c ∈ run, isIdentRest c = true)
    (stops : ∀ c ∈ after.head?, isIdentRest c = false) :
    renameWords names (first :: (run ++ after)) =
      (names.get? (first :: run)).getD (first :: run) ++ renameWords names after := by
  rw [renameWords, if_pos start, takeWhile_run inside stops, dropWhile_run inside stops]

theorem renameWords_numeral (digit : first.isDigit = true) (inside : ∀ c ∈ run, isNumeralRest c = true)
    (stops : ∀ c ∈ after.head?, isNumeralRest c = false) :
    renameWords names (first :: (run ++ after)) = first :: (run ++ renameWords names after) := by
  have letterless : ¬isIdentStart first = true := by
    intro start
    rw [isDigit_of_isIdentStart start] at digit
    cases digit
  rw [renameWords, if_neg letterless, if_pos digit, takeWhile_run inside stops, dropWhile_run inside stops]

theorem renameWords_others (others : ∀ c ∈ run, isIdentRest c = false) :
    renameWords names (run ++ after) = run ++ renameWords names after := by
  induction run with
  | nil => rfl
  | cons c run ih =>
    have here := others c List.mem_cons_self
    rw [isIdentRest_eq, Bool.or_eq_false_iff] at here
    have later := ih fun other member => others other (List.mem_cons_of_mem c member)
    rw [List.cons_append, renameWords, here.1, here.2, later]
    rfl

end

end Text

theorem Token.isIdentRest_of_isFormed {token : Token} (formed : token.isFormed = true) (wordless : token.kind ≠ .ident)
    (uncounted : token.kind ≠ .number) : ∀ c ∈ token.text, isIdentRest c = false := by
  obtain ⟨kind, text⟩ := token
  intro c inside
  cases kind with
  | ident => exact absurd rfl wordless
  | number => exact absurd rfl uncounted
  | space =>
    have spacing := List.all_eq_true.mp (Bool.and_eq_true_iff.mp formed).2 c inside
    exact isIdentRest_of_isBlank (Bool.and_eq_true_iff.mp spacing).1
  | newline =>
    have single : text = ['\n'] := eq_of_beq formed
    rw [single, List.mem_singleton] at inside
    rw [inside]
    decide
  | punct =>
    match text with
    | [] => cases inside
    | _ :: _ :: _ => cases formed
    | [mark] =>
      rw [List.mem_singleton] at inside
      rw [inside]
      exact isIdentRest_of_isMark formed

theorem renameWords_token (names : Table Text) {token : Token} {after : Text} (spelled : token.Spelled)
    (stops : ∀ c ∈ after.head?, token.kind.continues c = false) :
    Text.renameWords names (token.text ++ after) = (token.rename names).text ++ Text.renameWords names after := by
  by_cases word : token.kind = .ident
  · obtain ⟨kind, text⟩ := token
    cases word
    obtain ⟨first, run, rfl, begins, lengthens⟩ := spelled
    rw [Token.rename_ident]
    exact Text.renameWords_word names (isIdentStart_of_ofFirst begins) lengthens stops
  · rw [Token.rename_of_ne_ident names word]
    by_cases numeral : token.kind = .number
    · obtain ⟨kind, text⟩ := token
      cases numeral
      obtain ⟨first, run, rfl, begins, lengthens⟩ := spelled
      exact Text.renameWords_numeral names ((TokenKind.ofFirst_eq_iff _ first).mp begins) lengthens stops
    · have formed := token.spelled_iff_isFormed.mp spelled
      exact Text.renameWords_others names (Token.isIdentRest_of_isFormed formed word numeral)

theorem renameWords_render (names : Table Text) {tokens : List Token} (canonical : Canonical tokens) :
    Text.renameWords names (render tokens) = render (tokens.map (Token.rename names)) := by
  induction canonical with
  | nil => simp [render, Text.renameWords]
  | cons spelled stops later ih =>
    rw [render_cons, renameWords_token names spelled stops, ih, List.map_cons, render_cons]

def renamedTokens (names : Table Text) (text : Text) : List Token := ((Body.ofText text).rename names).tokens

theorem renamedTokens_eq (names : Table Text) (text : Text) :
    renamedTokens names text = (tokenize text).map (Token.rename names) := rfl

def substitutedNames (names : Table Text) (text : Text) : List Text :=
  (tokenize text).filterMap fun token => if token.kind = .ident then names.get? token.text else none

theorem canonical_renamedTokens_iff (names : Table Text) (text : Text) :
    Canonical (renamedTokens names text) ↔ ∀ name ∈ substitutedNames names text, Text.isIdentifier name = true := by
  have put : ∀ name, name ∈ substitutedNames names text ↔
      ∃ token ∈ tokenize text, token.kind = .ident ∧ names.get? token.text = some name := by
    intro name
    simp [substitutedNames]
  rw [renamedTokens_eq, (canonical_tokenize text).rename_iff]
  constructor
  · intro valid name member
    obtain ⟨token, among, word, held⟩ := (put name).mp member
    exact valid token among word name held
  · intro valid token among word name held
    exact valid name ((put name).mpr ⟨token, among, word, held⟩)

/-- The text of the renamed tokens is the text with its words replaced, and it is read as the renamed
tokens exactly when every name put in is an identifier. -/
theorem renamedTokens_read_iff (names : Table Text) (text : Text) :
    render (renamedTokens names text) = Text.renameWords names text ∧
      (tokenize (render (renamedTokens names text)) = renamedTokens names text ↔
        ∀ name ∈ substitutedNames names text, Text.isIdentifier name = true) := by
  constructor
  · have replaced := renameWords_render names (canonical_tokenize text)
    rw [render_tokenize] at replaced
    exact replaced.symm
  · rw [← canonical_renamedTokens_iff]
    constructor
    · intro same
      -- Read from a text, the renamed tokens are canonical whatever names were put in.
      rw [← same]
      exact canonical_tokenize _
    · exact tokenize_render

end ShaderPair
