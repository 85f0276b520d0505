import ShaderPair.Proofs.OnePass

/-! The fault of a body. Declarations are looked at before the names are restored, the normal and the clip
position only after matrices are collapsed and inputs are renamed. None of these steps makes or hides a fault,
so the first fault can be told from the declarations and the restored tokens alone. The main statement says
that a body is refused for that fault and for nothing else. -/

namespace ShaderPair.Restoration

open Progress (fault?)

/-! The checks, in their order. -/

def placeholderNames : List Text := ["attr8", "attr9", "attr10", "attr11", "attr12"]

/-- The name of a symbol behind which a vertex input is hidden, with the placeholder in any case. -/
def IsHiddenInput (name : Text) : Prop :=
  Text.startsWith "$vin." name = true ∧ Text.lower (name.drop 5) ∈ placeholderNames

instance (name : Text) : Decidable (IsHiddenInput name) := inferInstanceAs (Decidable (_ ∧ _))

def uniformFault? (symbols : SymbolMap) (declaration : Declaration) : Option ShaderError :=
  match symbols.get? declaration.name with
  | none => some (.unmappedIdentifier declaration.name)
  | some _ => none

/-- An attribute needs a symbol that hides a vertex input. -/
def inputFault? (symbols : SymbolMap) (declaration : Declaration) : Option ShaderError :=
  match symbols.get? declaration.name with
  | none => some (.unmappedIdentifier declaration.name)
  | some symbol =>
    if IsHiddenInput symbol.name then none else some (.unexpectedNamespace declaration.name symbol.name)

/-- The normal is always hidden, so it cannot be among the tokens. -/
def normalFault? (tokens : List Token) : Option ShaderError :=
  if tokens.any (·.isIdent "gl_Normal") then some (.internalConsistency "gl_Normal survived semantic renaming")
  else none

def clipEnded (tokens : List Token) : Bool :=
  (tokens.dropWhile fun token => !token.isIdent clipPosition).any (·.isPunct ';')

/-- There is one clip position at most, and it needs a semicolon after it. -/
def clipFault? (tokens : List Token) : Option ShaderError :=
  let count := tokens.countP (·.isIdent clipPosition)
  if 2 ≤ count then some (.multipleClipAssignment count)
  else if count = 1 ∧ clipEnded tokens = false then some .unterminatedClipAssignment
  else none

def firstFault? (symbols : SymbolMap) (text : Text) : Option ShaderError :=
  let body := Body.ofText text
  let tokens := restoredTokens symbols body
  [(body.declarations "uniform").findSome? (uniformFault? symbols),
    (body.declarations "attribute").findSome? (inputFault? symbols),
    normalFault? tokens,
    clipFault? tokens].findSome? id

/-! Faults of the declarations. -/

theorem isSome_ofPlaceholder? (name : Text) :
    (Semantic.ofPlaceholder? name).isSome = true ↔ Text.lower name ∈ placeholderNames := by
  have listed : Semantic.placeholders.map (fun pair => Text.lower pair.1) = placeholderNames := by decide
  rw [← listed, Semantic.ofPlaceholder?, Option.isSome_map, List.find?_isSome, List.mem_map]
  simp only [Text.sameLetters, beq_iff_eq]

theorem isSome_vertexInput? (name : Text) : (vertexInput? name).isSome = true ↔ IsHiddenInput name := by
  unfold vertexInput? Text.after? IsHiddenInput
  cases Text.startsWith "$vin." name with
  | false => simp
  | true =>
    simp only [if_true, Option.bind_some, true_and]
    exact isSome_ofPlaceholder? (name.drop 5)

theorem fault?_restoreName_uniform (symbols : SymbolMap) (declaration : Declaration) :
    fault? (restoreName symbols (.uniform, declaration)) = uniformFault? symbols declaration := by
  unfold restoreName SymbolMap.resolve uniformFault?
  cases symbols.get? declaration.name <;> rfl

theorem fault?_restoreName_input (symbols : SymbolMap) (declaration : Declaration) :
    fault? (restoreName symbols (.input, declaration)) = inputFault? symbols declaration := by
  unfold restoreName SymbolMap.resolve inputFault?
  cases symbols.get? declaration.name with
  | none => rfl
  | some symbol =>
    have hidden := isSome_vertexInput? symbol.name
    cases found : vertexInput? symbol.name with
    | none =>
      have shown : ¬IsHiddenInput symbol.name := by simp [← hidden, found]
      simp only [found, if_neg shown, fault?]
    | some semantic =>
      have covered : IsHiddenInput symbol.name := by simp [← hidden, found]
      simp only [found, if_pos covered, fault?]

/-- Every uniform is looked at before the first attribute. -/
theorem failure_restoreNames (symbols : SymbolMap) (body : Body) :
    (restoreNames symbols body).failure =
      ((body.declarations "uniform").findSome? (uniformFault? symbols)).or
        ((body.declarations "attribute").findSome? (inputFault? symbols)) := by
  have both : declared body = (body.declarations "uniform").map (fun declaration => (Qualifier.uniform, declaration)) ++
      (body.declarations "attribute").map (fun declaration => (Qualifier.input, declaration)) := by
    rw [declared, List.flatMap_cons, List.flatMap_cons, List.flatMap_nil, List.append_nil]
    rfl
  rw [restoreNames, Progress.failure_along, both, List.findSome?_append, List.findSome?_map, List.findSome?_map]
  simp only [Function.comp_def, fault?_restoreName_uniform, fault?_restoreName_input]

/-! Faults of the restored tokens. -/

theorem clipEnded_skip {token : Token} (other : token.isIdent clipPosition = false) (rest : List Token) :
    clipEnded (token :: rest) = clipEnded rest := by
  rw [clipEnded, List.dropWhile_cons_of_pos (by simp [other])]
  rfl

theorem clipEnded_clip {clip : Token} (isClip : clip.isIdent clipPosition = true) (rest : List Token) :
    clipEnded (clip :: rest) = rest.any (·.isPunct ';') := by
  have word := (Token.isIdent_iff clip clipPosition).mp isClip
  rw [clipEnded, List.dropWhile_cons_of_neg (by simp [isClip]), List.any_cons, word]
  rfl

theorem clipEnded_append {front : List Token} {clip : Token} (back : List Token)
    (before : ∀ token ∈ front, token.isIdent clipPosition = false) (isClip : clip.isIdent clipPosition = true) :
    clipEnded (front ++ clip :: back) = back.any (·.isPunct ';') := by
  induction front with
  | nil => exact clipEnded_clip isClip back
  | cons token front ih =>
    rw [List.cons_append, clipEnded_skip (before token List.mem_cons_self)]
    exact ih fun other member => before other (List.mem_cons_of_mem _ member)

theorem fault?_splitClipPosition (draft : Draft) :
    fault? (splitClipPosition draft) = clipFault? draft.body.tokens := by
  generalize same : splitClipPosition draft = outcome
  have split := clipSplit_of_eq same
  generalize draft.body.tokens = tokens at split ⊢
  cases split with
  | unused absent => simp [clipFault?, countP_unmarked absent, fault?]
  | @repeated front back _ before clip again =>
    have positive : 0 < back.countP (·.isIdent clipPosition) := by simpa using again
    have count := countP_append_cons back before clip
    rw [clipFault?, if_pos (by omega)]
    rfl
  | @endless front back _ before clip once endless =>
    have unended : back.any (·.isPunct ';') = false := by simpa using endless
    simp [clipFault?, countP_append_cons back before clip, countP_unmarked once, clipEnded_append back before clip,
      unended, fault?]
  | @ended front middle rest _ semicolon before clip once between ends =>
    have closed : (middle ++ semicolon :: rest).any (·.isPunct ';') = true := by simp [ends]
    simp only [clipFault?, countP_append_cons _ before clip, countP_unmarked once, clipEnded_append _ before clip,
      closed]
    rfl

theorem countP_filterMap_items {items : List (Token × Nat)} {change : Token × Nat → Option Token}
    {test : Token → Bool} (agrees : ∀ item ∈ items, (change item).any test = test item.1) :
    (items.filterMap change).countP test = (items.map Prod.fst).countP test := by
  induction items with
  | nil => rfl
  | cons item rest ih =>
    have first := agrees item List.mem_cons_self
    have later := ih fun other member => agrees other (List.mem_cons_of_mem _ member)
    rw [List.map_cons, List.countP_cons, ← later, ← first, List.filterMap_cons]
    cases change item with
    | none => simp
    | some token => simp [List.countP_cons]

theorem clipEnded_filterMap {items : List (Token × Nat)} {change : Token × Nat → Option Token}
    (clips : ∀ item ∈ items, (change item).any (·.isIdent clipPosition) = item.1.isIdent clipPosition)
    (ends : ∀ item ∈ items, (change item).any (·.isPunct ';') = item.1.isPunct ';') :
    clipEnded (items.filterMap change) = clipEnded (items.map Prod.fst) := by
  induction items with
  | nil => rfl
  | cons item rest ih =>
    have first := clips item List.mem_cons_self
    have later := ih (fun other member => clips other (List.mem_cons_of_mem _ member))
      (fun other member => ends other (List.mem_cons_of_mem _ member))
    have semicolons : (rest.filterMap change).any (·.isPunct ';') = (rest.map Prod.fst).any (·.isPunct ';') :=
      any_filterMap_items fun other member => ends other (List.mem_cons_of_mem _ member)
    rw [List.map_cons, List.filterMap_cons]
    cases changed : change item with
    | none =>
      rw [changed] at first
      rw [clipEnded_skip first.symm]
      exact later
    | some token =>
      rw [changed, Option.any_some] at first
      cases isClip : item.1.isIdent clipPosition with
      | false =>
        rw [clipEnded_skip isClip, clipEnded_skip (first.trans isClip)]
        exact later
      | true =>
        rw [clipEnded_clip isClip, clipEnded_clip (first.trans isClip)]
        exact semicolons

/-- Neither collapsing nor renaming the inputs makes or hides a fault of the clip position. -/
theorem clipFault?_inputsNamed (tokens : List Token) :
    clipFault? (tokens.zipIdx.filterMap (inputsNamed? tokens)) = clipFault? tokens := by
  have count := countP_filterMap_items fun item (member : item ∈ tokens.zipIdx) => isIdent_clip member
  have ended := clipEnded_filterMap (fun item (member : item ∈ tokens.zipIdx) => isIdent_clip member)
    fun item member => isPunct_inputsNamed member
  rw [List.zipIdx_map_fst] at count ended
  rw [clipFault?, clipFault?, count, ended]

theorem fault?_finishBody (tokens : List Token) :
    fault? (finishBody ⟨tokens⟩) = (normalFault? tokens).or (clipFault? tokens) := by
  have untyped : Untyped "gl_Normal" := by decide
  have apart : ∀ input ∈ builtinInputs, "gl_Normal" ≠ input.1 ∧ "gl_Normal" ≠ input.2 := by decide
  have normal : (tokens.zipIdx.filterMap (inputsNamed? tokens)).any (·.isIdent "gl_Normal") =
      tokens.any (·.isIdent "gl_Normal") := by
    rw [any_filterMap_items fun item member => isIdent_inputsNamed member untyped apart, List.zipIdx_map_fst]
  unfold finishBody normalFault?
  simp only [foldl_builtinInputs, Body.mentions, normal]
  cases tokens.any (·.isIdent "gl_Normal") with
  | true => rfl
  | false =>
    have clip := fault?_splitClipPosition
      ⟨(builtinInputs.filter fun input => tokens.any (·.isIdent input.1)).map inputDeclaration,
        ⟨tokens.zipIdx.filterMap (inputsNamed? tokens)⟩⟩
    rw [clipFault?_inputsNamed] at clip
    simp only [Bool.false_eq_true, if_false, Progress.fault?_map, Option.none_or, clip]

theorem findSome?_id_cons (first : Option ShaderError) (rest : List (Option ShaderError)) :
    (first :: rest).findSome? id = first.or (rest.findSome? id) := by
  cases first <;> rfl

theorem firstFault?_eq (symbols : SymbolMap) (text : Text) :
    firstFault? symbols text =
      (restoreNames symbols (.ofText text)).failure.or
        (fault? (finishBody ⟨restoredTokens symbols (.ofText text)⟩)) := by
  rw [failure_restoreNames, fault?_finishBody, Option.or_assoc]
  simp only [firstFault?, findSome?_id_cons, List.findSome?_nil, Option.or_none]

theorem fault?_restoreBody (symbols : SymbolMap) (text : Text) :
    fault? (restoreBody symbols text) = firstFault? symbols text := by
  rw [firstFault?_eq, ← Progress.fault?_toExcept, restoreBody]
  cases outcome : (restoreNames symbols (.ofText text)).toExcept with
  | error cause => rfl
  | ok names =>
    obtain ⟨_, rfl⟩ := restoreNames_eq_ok.mp outcome
    simp only [withNames_restoredList, fault?, Option.none_or]

theorem two_le_of_clipFault? {tokens : List Token} {count : Nat}
    (found : clipFault? tokens = some (.multipleClipAssignment count)) : 2 ≤ count := by
  simp only [clipFault?] at found
  split at found
  · next several =>
    cases found
    exact several
  · split at found <;> cases found

theorem two_le_of_firstFault? {symbols : SymbolMap} {text : Text} {count : Nat}
    (found : firstFault? symbols text = some (.multipleClipAssignment count)) : 2 ≤ count := by
  obtain ⟨check, listed, fault⟩ := List.exists_of_findSome?_eq_some found
  simp only [List.mem_cons, List.not_mem_nil, or_false, id_eq] at listed fault
  rcases listed with uniforms | inputs | normal | clip
  · rw [uniforms] at fault
    obtain ⟨declaration, _, wrong⟩ := List.exists_of_findSome?_eq_some fault
    unfold uniformFault? at wrong
    split at wrong <;> cases wrong
  · rw [inputs] at fault
    obtain ⟨declaration, _, wrong⟩ := List.exists_of_findSome?_eq_some fault
    unfold inputFault? at wrong
    split at wrong
    · cases wrong
    · split at wrong <;> cases wrong
  · rw [normal, normalFault?] at fault
    split at fault <;> cases fault
  · exact two_le_of_clipFault? (clip ▸ fault)

/-- A body is restored exactly when no check finds a fault, and else it is refused for the first one found. More
than one clip position is what a count of them is reported for. -/
theorem restoreBody_first_fault (symbols : SymbolMap) (text : Text) :
    ((∃ restored, restoreBody symbols text = .ok restored) ↔ firstFault? symbols text = none) ∧
      (∀ cause, restoreBody symbols text = .error cause ↔ firstFault? symbols text = some cause) ∧
      ∀ count, restoreBody symbols text = .error (.multipleClipAssignment count) → 2 ≤ count := by
  have refused : ∀ cause, restoreBody symbols text = .error cause ↔ firstFault? symbols text = some cause := by
    intro cause
    rw [← fault?_restoreBody, Progress.fault?_eq_some]
  refine ⟨?_, refused, ?_⟩
  · rw [← fault?_restoreBody, Progress.fault?_eq_none]
  · intro count failed
    exact two_le_of_firstFault? ((refused _).mp failed)

def clipNamedBody : Text := "attribute vec4 _n;\nuniform vec4 _p;\ngl_Position = _p"

def clipNamedSymbols (input : Text) : SymbolMap :=
  .ofPairs [("_p", ⟨"gl_Position", .plain⟩), ("_n", ⟨input, .semantic⟩)]

theorem restoreBody_first_fault_clipNamed :
    restoreBody (clipNamedSymbols "$VIN.attr8") clipNamedBody = .error (.unexpectedNamespace "_n" "$VIN.attr8") ∧
      restoreBody (clipNamedSymbols "$vin.ATTR8") clipNamedBody = .error (.multipleClipAssignment 3) ∧ 2 ≤ 3 := by
  obtain ⟨_, inputs, _⟩ := restoreBody_first_fault (clipNamedSymbols "$VIN.attr8") clipNamedBody
  obtain ⟨_, clips, several⟩ := restoreBody_first_fault (clipNamedSymbols "$vin.ATTR8") clipNamedBody
  have counted := (clips (.multipleClipAssignment 3)).mpr (by decide +kernel)
  exact ⟨(inputs _).mpr (by decide +kernel), counted, several 3 counted⟩

end ShaderPair.Restoration
