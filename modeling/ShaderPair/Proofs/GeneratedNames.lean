import Mathlib.Data.List.Basic
import ShaderPair.Proofs.Canonical
import ShaderPair.Proofs.RestoredNames
import ShaderPair.Proofs.TokenLines

/-! Generated names do not matter. The names that a compiler gives to uniforms and inputs are replaced
by those of the source, so a body with other generated names, and symbols to match, is restored to the
same text. The names may be exchanged among each other, since all of them are replaced at once. -/

namespace ShaderPair

namespace Token

theorem mapName_kind (change : Text → Text) (token : Token) : (token.mapName change).kind = token.kind := by
  unfold mapName
  split
  · next word => exact word.symm
  · rfl

theorem mapName_text {token : Token} (change : Text → Text) (word : token.kind = .ident) :
    (token.mapName change).text = change token.text := by
  rw [mapName, if_pos word]

theorem mapName_of_ne_ident {token : Token} (change : Text → Text) (other : token.kind ≠ .ident) :
    token.mapName change = token := by
  rw [mapName, if_neg other]

theorem mapName_mapName (first second : Text → Text) (token : Token) :
    (token.mapName first).mapName second = token.mapName fun name => second (first name) := by
  by_cases word : token.kind = .ident
  · simp [mapName, word]
  · simp [mapName, word]

theorem isIdent_mapName {change : Text → Text} {word : Text} (kept : ∀ name, change name = word ↔ name = word)
    (token : Token) : (token.mapName change).isIdent word = token.isIdent word := by
  obtain ⟨kind, text⟩ := token
  by_cases ident : kind = .ident
  · subst ident
    have same : (change text == word) = (text == word) := by
      rw [Bool.eq_iff_iff, beq_iff_eq, beq_iff_eq]
      exact kept text
    simp [mapName, isIdent, same]
  · rw [mapName_of_ne_ident change ident]

end Token

theorem tokenLines_map {change : Token → Token} (kinds : ∀ token, (change token).kind = token.kind)
    (tokens : List Token) : tokenLines (tokens.map change) = (tokenLines tokens).map (List.map change) := by
  induction tokens with
  | nil => rfl
  | cons token rest ih =>
    rw [List.map_cons, tokenLines, tokenLines, kinds, ih]
    split
    · rfl
    · cases tokenLines rest <;> rfl

theorem leadingDeclaration?_map {change : Text → Text} {qualifier : Text}
    (kept : ∀ name, change name = qualifier ↔ name = qualifier) (line : List Token) :
    leadingDeclaration? qualifier (line.map (Token.mapName change)) =
      (leadingDeclaration? qualifier line).map fun declaration =>
        ⟨change declaration.type, change declaration.name⟩ := by
  match line with
  | [] | [_] | [_, _] | [_, _, _] | [_, _, _, _] => rfl
  | first :: gap :: type :: space :: name :: rest =>
    simp only [List.map_cons, leadingDeclaration?, Token.isIdent_mapName kept, Token.mapName_kind]
    split
    · next fits =>
      simp only [Bool.and_eq_true, beq_iff_eq] at fits
      rw [Token.mapName_text change fits.1.1.2, Token.mapName_text change fits.2]
      rfl
    · rfl

theorem Body.declarations_map {change : Text → Text} {qualifier : Text}
    (kept : ∀ name, change name = qualifier ↔ name = qualifier) (tokens : List Token) :
    Body.declarations ⟨tokens.map (Token.mapName change)⟩ qualifier =
      (Body.declarations ⟨tokens⟩ qualifier).map fun declaration =>
        ⟨change declaration.type, change declaration.name⟩ := by
  rw [Body.declarations_eq_lines, Body.declarations_eq_lines, tokenLines_map (Token.mapName_kind change),
    List.filterMap_map, List.map_filterMap]
  congr 1
  funext line
  exact leadingDeclaration?_map kept line

namespace Restoration

def generatedNames (body : Body) : List Text := declaredNames body .uniform ++ declaredNames body .input

def qualifierWords : List Text := [Qualifier.uniform.word, Qualifier.input.word]

def regeneratedName (body : Body) (other : Text → Text) (name : Text) : Text :=
  if (generatedNames body).contains name then other name else name

/-- The body with other names for what it declares. -/
def regenerate (body : Body) (other : Text → Text) : Body :=
  ⟨body.tokens.map (Token.mapName (regeneratedName body other))⟩

/-- Names that can stand for the declared ones: different identifiers, neither words that open a
declaration nor identifiers that the body uses without declaring them. -/
structure Interchangeable (body : Body) (other : Text → Text) : Prop where
  injective : ∀ first ∈ generatedNames body, ∀ second ∈ generatedNames body,
    other first = other second → first = second
  identifier : ∀ name ∈ generatedNames body, Text.isIdentifier (other name) = true
  unreserved : ∀ name ∈ generatedNames body, other name ∉ qualifierWords
  unused : ∀ name ∈ generatedNames body, body.mentions (other name) = true → other name ∈ generatedNames body

theorem mem_generatedNames {body : Body} {qualifier : Qualifier} {name : Text}
    (member : name ∈ declaredNames body qualifier) : name ∈ generatedNames body := by
  cases qualifier with
  | uniform => exact List.mem_append_left _ member
  | input => exact List.mem_append_right _ member

theorem regeneratedName_of_mem {body : Body} {name : Text} (declared : name ∈ generatedNames body)
    (other : Text → Text) : regeneratedName body other name = other name := by
  rw [regeneratedName, if_pos (List.contains_iff_mem.mpr declared)]

theorem regeneratedName_of_not_mem {body : Body} {name : Text} (undeclared : name ∉ generatedNames body)
    (other : Text → Text) : regeneratedName body other name = name := by
  rw [regeneratedName, if_neg (mt List.contains_iff_mem.mp undeclared)]

theorem word_mem_qualifierWords (qualifier : Qualifier) : qualifier.word ∈ qualifierWords := by
  cases qualifier <;> simp [qualifierWords]

section

variable {body : Body} {other : Text → Text} (plain : ∀ name ∈ generatedNames body, name ∉ qualifierWords)
  (names : Interchangeable body other)

include plain names

theorem regeneratedName_eq_word (qualifier : Qualifier) (name : Text) :
    regeneratedName body other name = qualifier.word ↔ name = qualifier.word := by
  by_cases declared : name ∈ generatedNames body
  · have word := word_mem_qualifierWords qualifier
    rw [regeneratedName_of_mem declared]
    constructor
    · intro same
      exact absurd (same ▸ word) (names.unreserved name declared)
    · rintro rfl
      exact absurd word (plain _ declared)
  · rw [regeneratedName_of_not_mem declared]

theorem declaredNames_regenerate (qualifier : Qualifier) :
    declaredNames (regenerate body other) qualifier =
      (declaredNames body qualifier).map (regeneratedName body other) := by
  unfold declaredNames regenerate
  rw [Body.declarations_map (regeneratedName_eq_word plain names qualifier), List.map_map, List.map_map]
  rfl

theorem mem_declaredNames_regenerate {qualifier : Qualifier} {name : Text} (used : body.mentions name = true) :
    regeneratedName body other name ∈ declaredNames (regenerate body other) qualifier ↔
      name ∈ declaredNames body qualifier := by
  rw [declaredNames_regenerate plain names, List.mem_map]
  constructor
  · rintro ⟨first, member, same⟩
    have declared := mem_generatedNames member
    rw [regeneratedName_of_mem declared] at same
    by_cases known : name ∈ generatedNames body
    · rw [regeneratedName_of_mem known] at same
      exact names.injective first declared name known same ▸ member
    -- A name that is used but not declared is not among the new ones.
    · rw [regeneratedName_of_not_mem known] at same
      exact absurd (same ▸ names.unused first declared (same ▸ used)) known
  · intro member
    exact ⟨name, member, rfl⟩

end

theorem restoredAs?_congr {symbols renamed : SymbolMap} {first second : Text}
    (same : renamed.get? first = symbols.get? second) (qualifier : Qualifier) :
    restoredAs? renamed qualifier first = restoredAs? symbols qualifier second := by
  cases qualifier with
  | uniform => rw [restoredAs?, restoredAs?, same]
  | input => rw [restoredAs?, restoredAs?, same]

section

variable {symbols renamed : SymbolMap} {body : Body} {other : Text → Text}
  (plain : ∀ name ∈ generatedNames body, name ∉ qualifierWords) (names : Interchangeable body other)
  (rekeyed : ∀ name ∈ generatedNames body, renamed.get? (other name) = symbols.get? name)
  (restorable : Restorable symbols body)

include plain names rekeyed restorable

theorem restorable_regenerate : Restorable renamed (regenerate body other) := by
  intro qualifier name member
  rw [declaredNames_regenerate plain names] at member
  obtain ⟨first, among, rfl⟩ := List.mem_map.mp member
  have declared := mem_generatedNames among
  rw [regeneratedName_of_mem declared, restoredAs?_congr (rekeyed first declared)]
  exact restorable qualifier first among

theorem restoredName_regenerate {name : Text} (used : body.mentions name = true) :
    restoredName renamed (regenerate body other) (regeneratedName body other name) =
      restoredName symbols body name := by
  have restored : ∀ qualifier, name ∈ declaredNames body qualifier →
      (restoredAs? renamed qualifier (regeneratedName body other name)).getD (regeneratedName body other name) =
        (restoredAs? symbols qualifier name).getD name := by
    intro qualifier member
    have declared := mem_generatedNames member
    obtain ⟨value, found⟩ := Option.isSome_iff_exists.mp (restorable qualifier name member)
    rw [regeneratedName_of_mem declared, restoredAs?_congr (rekeyed name declared), found]
    rfl
  simp only [restoredName, mem_declaredNames_regenerate plain names used]
  by_cases input : name ∈ declaredNames body .input
  · rw [if_pos input, if_pos input, restored .input input]
  · rw [if_neg input, if_neg input]
    by_cases uniform : name ∈ declaredNames body .uniform
    · rw [if_pos uniform, if_pos uniform, restored .uniform uniform]
    · have undeclared : name ∉ generatedNames body := by
        simp [generatedNames, input, uniform]
      rw [if_neg uniform, if_neg uniform, regeneratedName_of_not_mem undeclared]

theorem restoredTokens_regenerate :
    restoredTokens renamed (regenerate body other) = restoredTokens symbols body := by
  have tokens : (regenerate body other).tokens = body.tokens.map (Token.mapName (regeneratedName body other)) := rfl
  rw [restoredTokens, restoredTokens, tokens, List.map_map]
  apply List.map_congr_left
  rintro ⟨kind, name⟩ member
  rw [Function.comp_apply, Token.mapName_mapName]
  by_cases word : kind = .ident
  · subst word
    have used : body.mentions name = true := List.any_eq_true.mpr ⟨_, member, by simp [Token.isIdent]⟩
    simp only [Token.mapName, if_true, restoredName_regenerate plain names rekeyed restorable used]
  · rw [Token.mapName_of_ne_ident _ word, Token.mapName_of_ne_ident _ word]

end

theorem ofText_regenerate {text : Text} {other : Text → Text} (names : Interchangeable (.ofText text) other) :
    Body.ofText (regenerate (.ofText text) other).text = regenerate (.ofText text) other := by
  have canonical : Canonical (regenerate (.ofText text) other).tokens := by
    apply (canonical_tokenize text).map_idents
    · intro token member other
      exact Token.mapName_of_ne_ident _ other
    · intro token member word
      refine ⟨(Token.mapName_kind _ token).trans word, ?_⟩
      rw [Token.mapName_text _ word]
      by_cases declared : token.text ∈ generatedNames (.ofText text)
      · rw [regeneratedName_of_mem declared]
        exact names.identifier token.text declared
      · rw [regeneratedName_of_not_mem declared]
        exact (Token.spelled_iff_of_ident word).mp ((canonical_tokenize text).spelled token member)
  rw [Body.ofText, Body.text, tokenize_render canonical]

theorem restoreBody_regenerate {symbols renamed : SymbolMap} {text : Text} {other : Text → Text} {restored : Restored}
    (plain : ∀ name ∈ generatedNames (.ofText text), name ∉ qualifierWords)
    (names : Interchangeable (.ofText text) other)
    (rekeyed : ∀ name ∈ generatedNames (.ofText text), renamed.get? (other name) = symbols.get? name)
    (succeeds : restoreBody symbols text = .ok restored) :
    restoreBody renamed (regenerate (.ofText text) other).text = .ok restored := by
  obtain ⟨restorable, finished⟩ := restoreBody_eq_ok.mp succeeds
  rw [restoreBody_eq_ok, ofText_regenerate names]
  refine ⟨restorable_regenerate plain names rekeyed restorable, ?_⟩
  rw [restoredTokens_regenerate plain names rekeyed restorable]
  exact finished

def twoNames : Text := "uniform vec4 _a;\nattribute vec3 _b;\nx=_a*_b+c;"

def twoSymbols : SymbolMap := .ofPairs [("_a", ⟨"tint", .plain⟩), ("_b", ⟨"$vin.ATTR8", .plain⟩)]

def exchanged (name : Text) : Text := if name = ['_', 'a'] then ['_', 'b'] else ['_', 'a']

def exchangedSymbols : SymbolMap := .ofPairs [("_a", ⟨"$vin.ATTR8", .plain⟩), ("_b", ⟨"tint", .plain⟩)]

theorem restoreBody_regenerate_exchanged :
    generatedNames (.ofText twoNames) = [['_', 'a'], ['_', 'b']] ∧
      (regenerate (.ofText twoNames) exchanged).text = "uniform vec4 _b;\nattribute vec3 _a;\nx=_b*_a+c;".toList ∧
      restoreBody exchangedSymbols (regenerate (.ofText twoNames) exchanged).text =
        .ok ⟨[], "uniform vec4 tint;\nattribute vec3 normal;\nx=tint*normal+c;"⟩ := by
  have names : Interchangeable (.ofText twoNames) exchanged :=
    ⟨by decide +kernel, by decide +kernel, by decide +kernel, by decide +kernel⟩
  have succeeds : restoreBody twoSymbols twoNames =
      .ok ⟨[], "uniform vec4 tint;\nattribute vec3 normal;\nx=tint*normal+c;"⟩ := by decide +kernel
  exact ⟨by decide +kernel, by decide +kernel,
    restoreBody_regenerate (by decide +kernel) names (by decide +kernel) succeeds⟩

end Restoration

end ShaderPair
