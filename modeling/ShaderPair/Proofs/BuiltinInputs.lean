import ShaderPair.Proofs.RestoredNames

/-! Built-in inputs. They are declared one after the other, each by a pass of its own over the body.
No attribute has the name of a built-in input, so the passes together are one renaming, and what is
declared can be told from the body before the first pass. -/

namespace ShaderPair

theorem Token.rename_of_ne_ident (names : Table Text) {token : Token} (other : token.kind ≠ .ident) :
    token.rename names = token := by
  unfold Token.rename
  split
  · next word _ => exact absurd word other
  · rfl

theorem Token.rename_ident (names : Table Text) (name : Text) :
    Token.rename names ⟨.ident, name⟩ = ⟨.ident, (names.get? name).getD name⟩ := by
  unfold Token.rename
  cases held : names.get? name with
  | none => rfl
  | some value => rfl

theorem Token.rename_kind (names : Table Text) (token : Token) : (token.rename names).kind = token.kind := by
  obtain ⟨kind, text⟩ := token
  by_cases word : kind = .ident
  · subst word
    rw [Token.rename_ident]
  · rw [Token.rename_of_ne_ident names word]

theorem Token.isIdent_iff (token : Token) (name : Text) : token.isIdent name = true ↔ token = ⟨.ident, name⟩ := by
  obtain ⟨kind, text⟩ := token
  simp [Token.isIdent]

theorem Token.isPunct_iff (token : Token) (c : Char) : token.isPunct c = true ↔ token = ⟨.punct, [c]⟩ := by
  obtain ⟨kind, text⟩ := token
  simp [Token.isPunct]

theorem Token.isIdent_rename {pairs : List (Text × Text)} {name : Text}
    (apart : ∀ pair ∈ pairs, name ≠ pair.1 ∧ name ≠ pair.2) (token : Token) :
    (token.rename (.ofPairs pairs)).isIdent name = token.isIdent name := by
  obtain ⟨kind, text⟩ := token
  by_cases word : kind = .ident
  · subst word
    rw [Token.rename_ident]
    cases held : (Table.ofPairs pairs).get? text with
    | none => rfl
    | some value =>
      obtain ⟨replaced, given⟩ := apart _ (Table.mem_of_get?_ofPairs held)
      simp only [Token.isIdent, Option.getD_some, beq_eq_false_iff_ne.mpr replaced.symm,
        beq_eq_false_iff_ne.mpr given.symm]
  · rw [Token.rename_of_ne_ident _ word]

theorem Body.rename_eq_self {names : Table Text} {body : Body}
    (fixed : ∀ name, body.mentions name = true → names.get? name = none) : body.rename names = body := by
  have same : body.tokens.map (Token.rename names) = body.tokens.map id := by
    apply List.map_congr_left
    rintro ⟨kind, text⟩ member
    by_cases word : kind = .ident
    · subst word
      have mentioned : body.mentions text = true :=
        List.any_eq_true.mpr ⟨_, member, (Token.isIdent_iff _ _).mpr rfl⟩
      rw [Token.rename_ident, fixed text mentioned]
      rfl
    · exact Token.rename_of_ne_ident names word
  rw [Body.rename, same, List.map_id]

namespace Restoration

def inputDeclaration (input : Text × Text) : Text := "attribute vec4 " ++ input.2 ++ ";"

/-- Each pass renames, whether or not the body uses the input. -/
theorem declareInput_eq (draft : Draft) (input : Text × Text) :
    declareInput draft input =
      ⟨draft.declarations ++ if draft.body.mentions input.1 then [inputDeclaration input] else [],
        draft.body.rename (.ofPairs [input])⟩ := by
  unfold declareInput
  split
  · rfl
  · next unused =>
    rw [Body.rename_eq_self, List.append_nil]
    intro name mentioned
    rw [Table.get?_single, if_neg]
    rintro rfl
    exact unused mentioned

/-- No later input is one that was replaced or one that was put in its place. -/
def Separated (inputs : List (Text × Text)) : Prop :=
  inputs.Pairwise fun earlier later => later.1 ≠ earlier.1 ∧ later.1 ≠ earlier.2

theorem rename_single_then {input : Text × Text} {rest : List (Text × Text)}
    (separated : ∀ later ∈ rest, later.1 ≠ input.1 ∧ later.1 ≠ input.2) (token : Token) :
    (token.rename (.ofPairs [input])).rename (.ofPairs rest) = token.rename (.ofPairs (input :: rest)) := by
  obtain ⟨kind, text⟩ := token
  by_cases word : kind = .ident
  · subst word
    have whole := Table.get?_ofPairs_cons input rest text
    simp only [Token.rename_ident, whole, Table.get?_single]
    by_cases same : text = input.1
    · have replaced : (Table.ofPairs rest).get? input.1 = none := by
        apply Table.get?_ofPairs_eq_none
        intro member
        obtain ⟨later, among, equal⟩ := List.mem_map.mp member
        exact (separated later among).1 equal
      have given : (Table.ofPairs rest).get? input.2 = none := by
        apply Table.get?_ofPairs_eq_none
        intro member
        obtain ⟨later, among, equal⟩ := List.mem_map.mp member
        exact (separated later among).2 equal
      subst same
      simp [replaced, given]
    · simp [same]
  · have other : (⟨kind, text⟩ : Token).kind ≠ .ident := word
    simp only [Token.rename_of_ne_ident _ other]

/-- All passes together declare what the body used and rename once. -/
theorem foldl_declareInput (inputs : List (Text × Text)) (draft : Draft) (separated : Separated inputs) :
    inputs.foldl declareInput draft =
      ⟨draft.declarations ++ (inputs.filter (draft.body.mentions ·.1)).map inputDeclaration,
        draft.body.rename (.ofPairs inputs)⟩ := by
  induction inputs generalizing draft with
  | nil =>
    have same : draft.body.rename (.ofPairs []) = draft.body :=
      Body.rename_eq_self fun name _ => Table.get?_empty name
    rw [same, List.filter_nil, List.map_nil, List.append_nil]
    rfl
  | cons input rest ih =>
    obtain ⟨apart, separated⟩ := List.pairwise_cons.mp separated
    have mentioned : ∀ later ∈ rest,
        (draft.body.rename (.ofPairs [input])).mentions later.1 = draft.body.mentions later.1 := by
      intro later member
      simp only [Body.mentions, Body.rename, List.any_map]
      congr 1
      funext token
      apply Token.isIdent_rename
      simpa using apart later member
    have renamed : (draft.body.rename (.ofPairs [input])).rename (.ofPairs rest) =
        draft.body.rename (.ofPairs (input :: rest)) := by
      simp only [Body.rename, List.map_map]
      congr 1
      apply List.map_congr_left
      intro token _
      exact rename_single_then apart token
    rw [List.foldl_cons, declareInput_eq, ih _ separated, renamed, List.filter_congr mentioned, List.filter_cons]
    split <;> simp

theorem separated_builtinInputs : Separated builtinInputs := by
  unfold Separated
  decide

end Restoration

end ShaderPair
