import Mathlib.Data.List.Forall2
import ShaderPair.Proofs.HiddenWords

/-! Revealed words. The table of hidden words can be read the other way, and a hidden text then shows its
source again, unless the source had placeholders of its own: these cannot be told from the ones put in. The
main statement says what hiding changes, and that a source comes back exactly when it had none. -/

namespace ShaderPair.Semantic

def placeholderWords : List Text := ["ATTR8", "ATTR9", "ATTR10", "ATTR11", "ATTR12"]

def shownNames : Table Text := .ofPairs (placeholders.map fun pair => (Text.upper pair.1, Text.upper pair.2))

def shownToken (token : Token) : Token := token.rename shownNames

/-- The text with every placeholder replaced by the semantic behind it. -/
def reveal (text : Text) : Text := render ((tokenize text).map shownToken)

/-- What can stand at one place of a source and of its hidden text: a reserved word and its placeholder, or
the same token, which is no reserved word. -/
inductive HiddenAs : Token → Token → Prop where
  | word {reserved placeholder : Text} (row : (reserved, placeholder) ∈ reservedWords.zip placeholderWords) :
      HiddenAs ⟨.ident, reserved⟩ ⟨.ident, placeholder⟩
  | kept {token : Token} (plain : ∀ word ∈ reservedWords, token ≠ ⟨.ident, word⟩) : HiddenAs token token

theorem hiddenAs_hiddenToken (token : Token) : HiddenAs token (hiddenToken token) := by
  by_cases plain : ∀ word ∈ reservedWords, token ≠ ⟨.ident, word⟩
  · rw [hiddenToken_eq_self.mpr plain]
    exact .kept plain
  · push Not at plain
    obtain ⟨word, reserved, rfl⟩ := plain
    have rows : ∀ word ∈ reservedWords,
        (word, (hiddenNames.get? word).getD word) ∈ reservedWords.zip placeholderWords := by decide
    rw [hiddenToken, Token.rename_ident]
    exact .word (rows word reserved)

theorem HiddenAs.plain {given hidden : Token} (beside : HiddenAs given hidden) :
    ∀ word ∈ reservedWords, hidden ≠ ⟨.ident, word⟩ := by
  cases beside with
  | kept plain => exact plain
  | word row =>
    have apart : ∀ pair ∈ reservedWords.zip placeholderWords, pair.2 ∉ reservedWords := by decide
    rintro word reserved ⟨⟩
    exact apart _ row reserved

theorem absent_hide (source : Text) : ∀ word ∈ reservedWords, (⟨.ident, word⟩ : Token) ∉ tokenize (hide source) := by
  intro word reserved inside
  rw [tokenize_hide] at inside
  obtain ⟨token, _, same⟩ := List.mem_map.mp inside
  exact (hiddenAs_hiddenToken token).plain word reserved same

/-! The way back. -/

theorem isIdentifier_shown {key name : Text} (held : shownNames.get? key = some name) :
    Text.isIdentifier name = true := by
  have all : ∀ pair ∈ placeholders.map fun pair => (Text.upper pair.1, Text.upper pair.2),
      Text.isIdentifier pair.2 = true := by decide
  exact all (key, name) (Table.mem_of_get?_ofPairs held)

theorem shownToken_eq_self {token : Token} (plain : ∀ word ∈ placeholderWords, token ≠ ⟨.ident, word⟩) :
    shownToken token = token := by
  by_cases word : token.kind = .ident
  · obtain ⟨kind, name⟩ := token
    cases word
    have keys : (placeholders.map fun pair => (Text.upper pair.1, Text.upper pair.2)).map Prod.fst =
        placeholderWords := by decide
    have absent : shownNames.get? name = none := by
      apply Table.get?_ofPairs_eq_none
      rw [keys]
      exact fun reserved => plain name reserved rfl
    rw [shownToken, Token.rename_ident, absent]
    rfl
  · exact Token.rename_of_ne_ident _ word

/-- A token comes back unless it is a placeholder, which comes back as the semantic behind it. -/
theorem shownToken_hiddenToken {token : Token} :
    shownToken (hiddenToken token) = token ↔ ∀ word ∈ placeholderWords, token ≠ ⟨.ident, word⟩ := by
  constructor
  · rintro back word reserved rfl
    have taken : ∀ word ∈ placeholderWords, shownToken (hiddenToken ⟨.ident, word⟩) ≠ ⟨.ident, word⟩ := by decide
    exact taken word reserved back
  · intro own
    by_cases plain : ∀ word ∈ reservedWords, token ≠ ⟨.ident, word⟩
    · rw [hiddenToken_eq_self.mpr plain, shownToken_eq_self own]
    · push Not at plain
      obtain ⟨word, reserved, rfl⟩ := plain
      have back : ∀ word ∈ reservedWords, shownToken (hiddenToken ⟨.ident, word⟩) = ⟨.ident, word⟩ := by decide
      exact back word reserved

theorem reveal_hide_eq_self {source : Text} :
    reveal (hide source) = source ↔ ∀ word ∈ placeholderWords, (⟨.ident, word⟩ : Token) ∉ tokenize source := by
  have hidden := (canonical_tokenize source).rename fun _ _ held => isIdentifier_hidden held
  have shown := hidden.rename fun _ _ held => isIdentifier_shown held
  rw [List.map_map] at shown
  rw [reveal, tokenize_hide, List.map_map]
  -- The revealed text is read as the revealed tokens, so it is the source only if each token came back.
  apply (render_map_eq_self shown).trans
  constructor
  · intro back word reserved inside
    exact shownToken_hiddenToken.mp (back _ inside) word reserved rfl
  · intro absent token inside
    apply shownToken_hiddenToken.mpr
    rintro word reserved rfl
    exact absent word reserved inside

/-- A hidden text has no reserved word, has the tokens of its source in all other places, and is not changed by
hiding it again. Revealing it gives the source back exactly when the source has no placeholder. -/
theorem hide_reversible (source : Text) :
    (∀ word ∈ reservedWords, (⟨.ident, word⟩ : Token) ∉ tokenize (hide source)) ∧
      List.Forall₂ HiddenAs (tokenize source) (tokenize (hide source)) ∧
      hide (hide source) = hide source ∧
      (reveal (hide source) = source ↔
        ∀ word ∈ placeholderWords, (⟨.ident, word⟩ : Token) ∉ tokenize source) := by
  have absent := absent_hide source
  refine ⟨absent, ?_, hide_eq_self.mpr absent, reveal_hide_eq_self⟩
  rw [tokenize_hide, List.forall₂_map_right_iff, List.forall₂_same]
  exact fun token _ => hiddenAs_hiddenToken token

example : reveal (hide "n : NORMAL, 2NORMAL, ATTR7") = "n : NORMAL, 2NORMAL, ATTR7" ∧
    reveal (hide "n : NORMAL, t : ATTR9") = "n : NORMAL, t : TANGENT" := by decide +kernel

end ShaderPair.Semantic
