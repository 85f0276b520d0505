import ShaderPair.Proofs.EditedTokens
import ShaderPair.Proofs.GeneratedNames
import ShaderPair.Proofs.OnePass

/-! Restored text read again. The steps of a restoration edit tokens and never look at the text they
will be written as. The main statement says that nothing is lost by that: as long as the names put back
are identifiers, reading the text of a restored body gives the tokens it was written from. So what holds
of these tokens holds of the text: no built-in input is left in it, the clip position is set at most
once, and there is no matrix to collapse. -/

namespace ShaderPair.Restoration

def finalDraft (body : Body) : Except ShaderError Draft :=
  let draft := builtinInputs.foldl declareInput ⟨[], body.collapse⟩
  if draft.body.mentions "gl_Normal" then
    .error (.internalConsistency "gl_Normal survived semantic renaming")
  else splitClipPosition draft

theorem finishBody_eq_finalDraft (body : Body) : finishBody body = (finalDraft body).map Draft.finish := by
  simp only [finishBody, finalDraft]
  split
  · rfl
  · rfl

def writtenDraft (symbols : SymbolMap) (text : Text) : Except ShaderError Draft :=
  match (restoreNames symbols (.ofText text)).toExcept with
  | .ok names => finalDraft (withNames names (.ofText text))
  | .error cause => .error cause

theorem restoreBody_eq_writtenDraft (symbols : SymbolMap) (text : Text) :
    restoreBody symbols text = (writtenDraft symbols text).map Draft.finish := by
  rw [restoreBody, writtenDraft]
  cases (restoreNames symbols (.ofText text)).toExcept with
  | error cause => rfl
  | ok names => exact finishBody_eq_finalDraft (withNames names (.ofText text))

def clipNames : Table Text := .ofPairs [(clipPosition, clipTemporary)]

def namedTokens (tokens : List Token) : List Token :=
  (Body.collapse ⟨tokens⟩).tokens.map (Token.rename (.ofPairs builtinInputs))

theorem rename_clipNames {token : Token} (other : token.isIdent clipPosition = false) :
    token.rename clipNames = token := by
  obtain ⟨kind, text⟩ := token
  by_cases word : kind = .ident
  · subst word
    have differs : text ≠ clipPosition := by simpa [Token.isIdent] using other
    rw [Token.rename_ident, clipNames, Table.get?_single, if_neg differs]
    rfl
  · exact Token.rename_of_ne_ident _ word

theorem map_rename_clipNames {tokens : List Token} (others : ∀ token ∈ tokens, token.isIdent clipPosition = false) :
    tokens.map (Token.rename clipNames) = tokens := by
  rw [List.map_congr_left fun token member => rename_clipNames (others token member), List.map_id']

theorem rename_clipPosition {token : Token} (clip : token.isIdent clipPosition = true) :
    token.rename clipNames = ⟨.ident, clipTemporary⟩ := by
  rw [(Token.isIdent_iff _ _).mp clip]
  decide

/-- What the final draft holds: the named tokens, or these with the clip position split. -/
theorem finalDraft_cases {tokens : List Token} {draft : Draft} (succeeds : finalDraft ⟨tokens⟩ = .ok draft) :
    (∀ token ∈ namedTokens tokens, token.isIdent "gl_Normal" = false) ∧
      ((∀ token ∈ namedTokens tokens, token.isIdent clipPosition = false) ∧ draft.body.tokens = namedTokens tokens ∨
        (namedTokens tokens).countP (·.isIdent clipPosition) = 1 ∧
          ∃ front semicolon back, semicolon.isPunct ';' = true ∧
            (namedTokens tokens).map (Token.rename clipNames) = front ++ semicolon :: back ∧
            draft.body.tokens = front ++ semicolon :: (tokenize clipRecombination ++ back)) := by
  unfold finalDraft at succeeds
  simp only [foldl_declareInput _ _ separated_builtinInputs] at succeeds
  split at succeeds
  · cases succeeds
  · next absent =>
    have normal : ∀ token ∈ namedTokens tokens, token.isIdent "gl_Normal" = false := by
      intro token member
      cases marked : token.isIdent "gl_Normal" with
      | false => rfl
      | true => exact absurd (List.any_eq_true.mpr ⟨token, member, marked⟩) absent
    refine ⟨normal, ?_⟩
    have split : ClipSplit _ (namedTokens tokens) (.ok draft) := clipSplit_of_eq succeeds
    generalize namedTokens tokens = named at split
    cases split with
    | unused absent => exact .inl ⟨absent, rfl⟩
    | @ended front middle rest hit semicolon before clip once between ends =>
      refine .inr ⟨by rw [countP_append_cons _ before clip, countP_unmarked once],
        front ++ ⟨.ident, clipTemporary⟩ :: middle, semicolon, rest, ends, ?_, by simp⟩
      rw [List.map_append, List.map_cons, map_rename_clipNames before, map_rename_clipNames once,
        rename_clipPosition clip]
      simp

def replacedInputs : List Text := [
  "gl_Vertex", "gl_MultiTexCoord0", "gl_MultiTexCoord1", "gl_MultiTexCoord2", "gl_MultiTexCoord3", "gl_MultiTexCoord4",
  "gl_MultiTexCoord5", "gl_MultiTexCoord6", "gl_MultiTexCoord7", "gl_Normal"]

/-- The recombination stays on its line and ends its statement. It sets the clip position once. -/
theorem tokens_clipRecombination :
    (tokenize clipRecombination).getLast? = some ⟨.punct, [';']⟩ ∧
      (tokenize clipRecombination).countP (·.isIdent clipPosition) = 1 ∧
      ∀ token ∈ tokenize clipRecombination,
        token.kind ≠ .newline ∧ ∀ name ∈ replacedInputs, token.isIdent name = false := by
  decide +kernel

theorem isIdent_rename_replaced {pairs : List (Text × Text)} {name : Text}
    (replaced : ((Table.ofPairs pairs).get? name).isSome = true) (fresh : ∀ pair ∈ pairs, pair.2 ≠ name)
    (token : Token) :
    (token.rename (.ofPairs pairs)).isIdent name = false := by
  obtain ⟨kind, text⟩ := token
  by_cases word : kind = .ident
  · subst word
    rw [Token.rename_ident]
    cases held : (Table.ofPairs pairs).get? text with
    | none =>
      have differs : text ≠ name := by
        rintro rfl
        rw [held] at replaced
        cases replaced
      simpa [Token.isIdent] using differs
    | some value =>
      have given : value ≠ name := fresh _ (Table.mem_of_get?_ofPairs held)
      simpa [Token.isIdent] using given
  · rw [Token.rename_of_ne_ident _ word]
    simp [Token.isIdent, word]

section

variable {tokens : List Token} {draft : Draft} (succeeds : finalDraft ⟨tokens⟩ = .ok draft)

include succeeds

theorem canonical_finalDraft (canonical : Canonical tokens) : Canonical draft.body.tokens := by
  have inputs : ∀ input ∈ builtinInputs, Text.isIdentifier input.2 = true := by decide
  have named : Canonical (namedTokens tokens) :=
    canonical.collapse.rename fun key name held => inputs (key, name) (Table.mem_of_get?_ofPairs held)
  obtain ⟨_, ⟨_, same⟩ | ⟨_, front, semicolon, back, ends, shape, same⟩⟩ := finalDraft_cases succeeds
  · rw [same]
    exact named
  · have clip : ∀ input ∈ [(clipPosition, clipTemporary)], Text.isIdentifier input.2 = true := by decide
    have split : Canonical (front ++ semicolon :: back) := by
      rw [← shape]
      exact named.rename fun key name held => clip (key, name) (Table.mem_of_get?_ofPairs held)
    simp only [Token.isPunct, Bool.and_eq_true, beq_iff_eq] at ends
    rw [same]
    exact split.insert ends.1 (canonical_tokenize clipRecombination) tokens_clipRecombination.1 rfl

theorem matrixFree_finalDraft : MatrixFree draft.body.tokens := by
  have inputs : ∀ input ∈ builtinInputs, input.2 ≠ "uniform" ∧ Text.startsWith "vec" input.2 = false := by decide
  have named : MatrixFree (namedTokens tokens) :=
    (matrixFree_collapse tokens).rename fun key name held => inputs (key, name) (Table.mem_of_get?_ofPairs held)
  obtain ⟨_, ⟨_, same⟩ | ⟨_, front, semicolon, back, ends, shape, same⟩⟩ := finalDraft_cases succeeds
  · rw [same]
    exact named
  · have clip : ∀ input ∈ [(clipPosition, clipTemporary)],
        input.2 ≠ "uniform" ∧ Text.startsWith "vec" input.2 = false := by decide
    have split : MatrixFree (front ++ semicolon :: back) := by
      rw [← shape]
      exact named.rename fun key name held => clip (key, name) (Table.mem_of_get?_ofPairs held)
    rw [same]
    exact split.insert ends fun token member => (tokens_clipRecombination.2.2 token member).1

theorem mem_finalDraft {token : Token} (member : token ∈ draft.body.tokens) :
    token ∈ (namedTokens tokens).map (Token.rename clipNames) ∨ token ∈ tokenize clipRecombination := by
  obtain ⟨_, ⟨unused, same⟩ | ⟨_, front, semicolon, back, _, shape, same⟩⟩ := finalDraft_cases succeeds
  · rw [map_rename_clipNames unused, ← same]
    exact .inl member
  · rw [same] at member
    rw [shape]
    simp only [List.mem_append, List.mem_cons] at member ⊢
    rcases member with early | mark | added | late
    · exact .inl (.inl early)
    · exact .inl (.inr (.inl mark))
    · exact .inr added
    · exact .inl (.inr (.inr late))

end

theorem isIdent_named_replaced {tokens : List Token} {draft : Draft} (succeeds : finalDraft ⟨tokens⟩ = .ok draft)
    {name : Text} (listed : name ∈ replacedInputs) : ∀ token ∈ namedTokens tokens, token.isIdent name = false := by
  have inputs : ∀ name ∈ replacedInputs, name = "gl_Normal" ∨
      ((Table.ofPairs builtinInputs).get? name).isSome = true ∧ ∀ input ∈ builtinInputs, input.2 ≠ name := by decide
  intro token member
  rcases inputs name listed with rfl | ⟨replaced, fresh⟩
  · exact (finalDraft_cases succeeds).1 token member
  · obtain ⟨source, _, rfl⟩ := List.mem_map.mp member
    exact isIdent_rename_replaced replaced fresh source

theorem mentions_replaced {tokens : List Token} {draft : Draft} (succeeds : finalDraft ⟨tokens⟩ = .ok draft)
    {name : Text} (listed : name ∈ replacedInputs) : draft.body.mentions name = false := by
  have apart : ∀ name ∈ replacedInputs, ∀ pair ∈ [(clipPosition, clipTemporary)], name ≠ pair.1 ∧ name ≠ pair.2 := by
    decide
  rw [Body.mentions, List.any_eq_false]
  intro token member
  rcases mem_finalDraft succeeds member with renamed | inserted
  · obtain ⟨source, among, rfl⟩ := List.mem_map.mp renamed
    have kept : (source.rename clipNames).isIdent name = source.isIdent name :=
      Token.isIdent_rename (apart name listed) source
    rw [kept, isIdent_named_replaced succeeds listed source among]
    exact Bool.false_ne_true
  · rw [(tokens_clipRecombination.2.2 token inserted).2 name listed]
    exact Bool.false_ne_true

theorem any_clipPosition_named (tokens : List Token) :
    (namedTokens tokens).any (·.isIdent clipPosition) = tokens.any (·.isIdent clipPosition) :=
  mentions_renamed tokens untyped_clipPosition apart_clipPosition

theorem countP_clipPosition {tokens : List Token} {draft : Draft} (succeeds : finalDraft ⟨tokens⟩ = .ok draft) :
    draft.body.tokens.countP (·.isIdent clipPosition) =
      if tokens.any (·.isIdent clipPosition) then 1 else 0 := by
  rw [← any_clipPosition_named tokens]
  obtain ⟨_, ⟨unused, same⟩ | ⟨once, front, semicolon, back, _, shape, same⟩⟩ := finalDraft_cases succeeds
  · have absent : (namedTokens tokens).any (·.isIdent clipPosition) = false := by simpa using unused
    rw [absent, same, if_neg Bool.false_ne_true]
    simpa using unused
  · have used : (namedTokens tokens).any (·.isIdent clipPosition) = true := by
      have positive : 0 < (namedTokens tokens).countP (·.isIdent clipPosition) := by omega
      simpa using positive
    have gone : (front ++ semicolon :: back).countP (·.isIdent clipPosition) = 0 := by
      rw [← shape, List.countP_eq_zero]
      intro token member
      obtain ⟨source, _, rfl⟩ := List.mem_map.mp member
      have lost : (source.rename clipNames).isIdent clipPosition = false :=
        isIdent_rename_replaced (by decide) (by decide) source
      rw [lost]
      exact Bool.false_ne_true
    rw [List.countP_append, List.countP_cons] at gone
    rw [used, if_pos rfl, same, List.countP_append, List.countP_cons, List.countP_append,
      tokens_clipRecombination.2.1]
    omega

theorem canonical_restoredTokens {symbols : SymbolMap} {text : Text}
    (valid : ∀ name ∈ generatedNames (.ofText text),
      Text.isIdentifier (restoredName symbols (.ofText text) name) = true) :
    Canonical (restoredTokens symbols (.ofText text)) := by
  apply (canonical_tokenize text).map_idents
  · intro token _ other
    exact Token.mapName_of_ne_ident _ other
  · intro token member word
    refine ⟨(Token.mapName_kind _ token).trans word, ?_⟩
    rw [Token.mapName_text _ word]
    by_cases declared : token.text ∈ generatedNames (.ofText text)
    · exact valid token.text declared
    · simp only [generatedNames, List.mem_append, not_or] at declared
      rw [restoredName, if_neg declared.2, if_neg declared.1]
      exact (Token.spelled_iff_of_ident word).mp ((canonical_tokenize text).spelled token member)

theorem finalDraft_of_writtenDraft {symbols : SymbolMap} {text : Text} {draft : Draft}
    (written : writtenDraft symbols text = .ok draft) :
    finalDraft ⟨restoredTokens symbols (.ofText text)⟩ = .ok draft := by
  rw [writtenDraft] at written
  cases outcome : (restoreNames symbols (.ofText text)).toExcept with
  | error cause =>
    rw [outcome] at written
    cases written
  | ok names =>
    rw [outcome] at written
    obtain ⟨_, rfl⟩ := restoreNames_eq_ok.mp outcome
    rw [← withNames_restoredList]
    exact written

/-- A restored body with identifiers for names is read as the tokens it was written from. -/
theorem restoreBody_readBack {symbols : SymbolMap} {text : Text} {restored : Restored}
    (succeeds : restoreBody symbols text = .ok restored)
    (valid : ∀ name ∈ generatedNames (.ofText text),
      Text.isIdentifier (restoredName symbols (.ofText text) name) = true) :
    ∃ draft, writtenDraft symbols text = .ok draft ∧ restored = draft.finish ∧
      tokenize restored.body = draft.body.tokens ∧
      (∀ name ∈ replacedInputs, (Body.ofText restored.body).mentions name = false) ∧
      (tokenize restored.body).countP (·.isIdent clipPosition) =
        (if (restoredTokens symbols (.ofText text)).any (·.isIdent clipPosition) then 1 else 0) ∧
      (Body.ofText restored.body).collapsedNames = [] ∧
      (Body.ofText restored.body).collapse = .ofText restored.body := by
  rw [restoreBody_eq_writtenDraft] at succeeds
  cases written : writtenDraft symbols text with
  | error cause =>
    rw [written] at succeeds
    cases succeeds
  | ok draft =>
    rw [written] at succeeds
    cases succeeds
    have finished := finalDraft_of_writtenDraft written
    have read : tokenize draft.finish.body = draft.body.tokens :=
      tokenize_render (canonical_finalDraft finished (canonical_restoredTokens valid))
    have body : Body.ofText draft.finish.body = draft.body := congrArg Body.mk read
    have free := matrixFree_finalDraft finished
    refine ⟨draft, rfl, rfl, read, ?_, ?_, ?_, ?_⟩
    · intro name listed
      rw [body]
      exact mentions_replaced finished listed
    · rw [read]
      exact countP_clipPosition finished
    · rw [body]
      exact free.collapsedNames_eq_nil
    · rw [body]
      exact free.collapse_eq_self

def clipMatrixBody : Text := "uniform vec2 _m[2];\ngl_Position=_m[0]*gl_Vertex;"

def clipMatrixSymbols : SymbolMap := .ofPairs [("_m", ⟨"world", .semantic⟩)]

def clipMatrixResult : Restored :=
  ⟨["attribute vec4 position;", "vec4 _glPositionTemp;", "uniform vec4 dx_clipping;"],
    "uniform mat2 world;\n_glPositionTemp=world[0]*position;" ++ clipRecombination⟩

theorem restoreBody_readBack_clipMatrix :
    restoreBody clipMatrixSymbols clipMatrixBody = .ok clipMatrixResult ∧
      (∀ name ∈ generatedNames (.ofText clipMatrixBody),
        Text.isIdentifier (restoredName clipMatrixSymbols (.ofText clipMatrixBody) name) = true) ∧
      (∃ draft, writtenDraft clipMatrixSymbols clipMatrixBody = .ok draft ∧
        tokenize clipMatrixResult.body = draft.body.tokens) ∧
      (tokenize clipMatrixResult.body).countP (·.isIdent clipPosition) = 1 := by
  have succeeds : restoreBody clipMatrixSymbols clipMatrixBody = .ok clipMatrixResult := by decide +kernel
  have valid : ∀ name ∈ generatedNames (.ofText clipMatrixBody),
      Text.isIdentifier (restoredName clipMatrixSymbols (.ofText clipMatrixBody) name) = true := by decide +kernel
  have used : (restoredTokens clipMatrixSymbols (.ofText clipMatrixBody)).any (·.isIdent clipPosition) = true := by
    decide +kernel
  obtain ⟨draft, written, _, read, _, count, _⟩ := restoreBody_readBack succeeds valid
  rw [used] at count
  exact ⟨succeeds, valid, ⟨draft, written, read⟩, count⟩

end ShaderPair.Restoration
