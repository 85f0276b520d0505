import ShaderPair.Restoration

/-! The clip position. Its step works on positions: it looks the identifier up, looks for the
semicolon after it, and edits both places. Here the ways the step can go are listed by cutting the tokens at
the first clip position and what follows it at the first semicolon. -/

namespace ShaderPair

theorem cut_at_first (test : Token → Bool) (tokens : List Token) :
    (∀ token ∈ tokens, test token = false) ∨
      ∃ front hit back, tokens = front ++ hit :: back ∧ (∀ token ∈ front, test token = false) ∧ test hit = true := by
  cases found : tokens.find? test with
  | none => exact .inl (by simpa using found)
  | some hit =>
    obtain ⟨passes, front, back, shape, before⟩ := List.find?_eq_some_iff_append.mp found
    exact .inr ⟨front, hit, back, shape, by simpa using before, passes⟩

theorem findIdx?_append_cons {test : Token → Bool} {front : List Token} {hit : Token} (back : List Token)
    (before : ∀ token ∈ front, test token = false) (passes : test hit = true) :
    (front ++ hit :: back).findIdx? test = some front.length := by
  rw [List.findIdx?_append, List.findIdx?_eq_none_iff.mpr before, List.findIdx?_cons, if_pos passes]
  simp

theorem countP_unmarked {test : Token → Bool} {tokens : List Token}
    (absent : ∀ token ∈ tokens, test token = false) : tokens.countP test = 0 :=
  List.countP_eq_zero.mpr fun token member => by simp [absent token member]

theorem countP_append_cons {test : Token → Bool} {front : List Token} {hit : Token} (back : List Token)
    (before : ∀ token ∈ front, test token = false) (passes : test hit = true) :
    (front ++ hit :: back).countP test = back.countP test + 1 := by
  rw [List.countP_append, List.countP_cons, countP_unmarked before, passes, Nat.zero_add, if_pos rfl]

namespace Body

theorem length_filterMap_zipIdx (test : Token → Bool) (tokens : List Token) (start : Nat) :
    ((tokens.zipIdx start).filterMap fun item => if test item.1 then some item.2 else none).length =
      tokens.countP test := by
  induction tokens generalizing start with
  | nil => rfl
  | cons token rest ih =>
    rw [List.zipIdx_cons, List.filterMap_cons, List.countP_cons, ← ih (start + 1)]
    split <;> simp_all

theorem length_positionsOf (body : Body) (name : Text) :
    (body.positionsOf name).length = body.tokens.countP (·.isIdent name) :=
  length_filterMap_zipIdx (·.isIdent name) body.tokens 0

theorem positionsOf_append {front : List Token} {hit : Token} {name : Text} (back : List Token)
    (before : ∀ token ∈ front, token.isIdent name = false) (passes : hit.isIdent name = true) :
    ∃ later, positionsOf ⟨front ++ hit :: back⟩ name = front.length :: later ∧
      later.length = back.countP (·.isIdent name) := by
  have skipped : (front.zipIdx.filterMap fun item => if item.1.isIdent name then some item.2 else none) = [] := by
    rw [List.filterMap_eq_nil_iff]
    rintro ⟨token, position⟩ member
    simp [before token (List.fst_mem_of_mem_zipIdx member)]
  refine ⟨_, ?_, length_filterMap_zipIdx (·.isIdent name) back (front.length + 1)⟩
  unfold positionsOf
  rw [List.zipIdx_append, List.filterMap_append, skipped, List.zipIdx_cons, List.filterMap_cons, Nat.zero_add]
  simp [passes]

theorem findPunct?_append (front back : List Token) (hit : Token) (c : Char) :
    findPunct? ⟨front ++ hit :: back⟩ (front.length + 1) c =
      (back.findIdx? (·.isPunct c)).map (front.length + 1 + ·) := by
  have rest : (front ++ hit :: back).drop (front.length + 1) = back := by
    rw [← List.drop_drop, List.drop_left, List.drop_one, List.tail_cons]
  rw [findPunct?, rest]

/-- Both edits of the step, with the positions spelled out. -/
theorem insertAfter_replaceWithIdent (front middle back : List Token) (hit last : Token) (name text : Text) :
    (replaceWithIdent ⟨front ++ hit :: (middle ++ last :: back)⟩ front.length name).insertAfter
        (front.length + 1 + middle.length) text =
      ⟨front ++ ⟨.ident, name⟩ :: (middle ++ last :: (tokenize text ++ back))⟩ := by
  have replaced : (front ++ hit :: (middle ++ last :: back)).set front.length ⟨.ident, name⟩ =
      (front ++ ⟨.ident, name⟩ :: (middle ++ [last])) ++ back := by
    simp
  have position : front.length + 1 + middle.length + 1 =
      (front ++ (⟨.ident, name⟩ : Token) :: (middle ++ [last])).length := by
    simp only [List.length_append, List.length_cons, List.length_nil]
    omega
  rw [insertAfter, replaceWithIdent, replaced, position, List.take_left, List.drop_left]
  simp

end Body

namespace Restoration

section

variable {declarations : List Text} {front middle back rest : List Token} {hit semicolon : Token}

theorem splitClipPosition_unused {draft : Draft}
    (absent : ∀ token ∈ draft.body.tokens, token.isIdent clipPosition = false) :
    splitClipPosition draft = .ok draft := by
  have none : draft.body.positionsOf clipPosition = [] := by
    rw [← List.length_eq_zero_iff, Body.length_positionsOf, countP_unmarked absent]
  rw [splitClipPosition, none]

variable (before : ∀ token ∈ front, token.isIdent clipPosition = false) (clip : hit.isIdent clipPosition = true)

include before clip

theorem splitClipPosition_repeated (again : back.any (·.isIdent clipPosition) = true) :
    splitClipPosition ⟨declarations, ⟨front ++ hit :: back⟩⟩ =
      .error (.multipleClipAssignment ((front ++ hit :: back).countP (·.isIdent clipPosition))) := by
  obtain ⟨later, positions, count⟩ := Body.positionsOf_append back before clip
  have positive : 0 < back.countP (·.isIdent clipPosition) := by simpa using again
  rw [splitClipPosition, countP_append_cons back before clip, ← count, positions]
  cases later with
  | nil => rw [← count] at positive; cases positive
  | cons second others => rfl

theorem splitClipPosition_alone (once : ∀ token ∈ back, token.isIdent clipPosition = false) :
    splitClipPosition ⟨declarations, ⟨front ++ hit :: back⟩⟩ =
      match back.findIdx? (·.isPunct ';') with
      | none => .error .unterminatedClipAssignment
      | some length => .ok ⟨declarations ++ clipDeclarations,
          (Body.replaceWithIdent ⟨front ++ hit :: back⟩ front.length clipTemporary).insertAfter
            (front.length + 1 + length) clipRecombination⟩ := by
  obtain ⟨later, positions, count⟩ := Body.positionsOf_append back before clip
  obtain rfl : later = [] := List.length_eq_zero_iff.mp (count.trans (countP_unmarked once))
  simp only [splitClipPosition, positions, Body.findPunct?_append]
  cases back.findIdx? (·.isPunct ';') <;> rfl

theorem splitClipPosition_endless (once : ∀ token ∈ back, token.isIdent clipPosition = false)
    (endless : ∀ token ∈ back, token.isPunct ';' = false) :
    splitClipPosition ⟨declarations, ⟨front ++ hit :: back⟩⟩ = .error .unterminatedClipAssignment := by
  rw [splitClipPosition_alone before clip once, List.findIdx?_eq_none_iff.mpr endless]

theorem splitClipPosition_ended
    (once : ∀ token ∈ middle ++ semicolon :: rest, token.isIdent clipPosition = false)
    (between : ∀ token ∈ middle, token.isPunct ';' = false) (ends : semicolon.isPunct ';' = true) :
    splitClipPosition ⟨declarations, ⟨front ++ hit :: (middle ++ semicolon :: rest)⟩⟩ =
      .ok ⟨declarations ++ clipDeclarations, ⟨front ++ ⟨.ident, clipTemporary⟩ ::
        (middle ++ semicolon :: (tokenize clipRecombination ++ rest))⟩⟩ := by
  rw [splitClipPosition_alone before clip once, findIdx?_append_cons rest between ends]
  simp only [Body.insertAfter_replaceWithIdent]

end

/-- The ways the step at the clip position can go. -/
inductive ClipSplit (declarations : List Text) : List Token → Except ShaderError Draft → Prop where
  | unused {tokens : List Token} (absent : ∀ token ∈ tokens, token.isIdent clipPosition = false) :
      ClipSplit declarations tokens (.ok ⟨declarations, ⟨tokens⟩⟩)
  | repeated {front back : List Token} {hit : Token}
      (before : ∀ token ∈ front, token.isIdent clipPosition = false) (clip : hit.isIdent clipPosition = true)
      (again : back.any (·.isIdent clipPosition) = true) :
      ClipSplit declarations (front ++ hit :: back)
        (.error (.multipleClipAssignment ((front ++ hit :: back).countP (·.isIdent clipPosition))))
  | endless {front back : List Token} {hit : Token}
      (before : ∀ token ∈ front, token.isIdent clipPosition = false) (clip : hit.isIdent clipPosition = true)
      (once : ∀ token ∈ back, token.isIdent clipPosition = false)
      (endless : ∀ token ∈ back, token.isPunct ';' = false) :
      ClipSplit declarations (front ++ hit :: back) (.error .unterminatedClipAssignment)
  | ended {front middle rest : List Token} {hit semicolon : Token}
      (before : ∀ token ∈ front, token.isIdent clipPosition = false) (clip : hit.isIdent clipPosition = true)
      (once : ∀ token ∈ middle ++ semicolon :: rest, token.isIdent clipPosition = false)
      (between : ∀ token ∈ middle, token.isPunct ';' = false) (ends : semicolon.isPunct ';' = true) :
      ClipSplit declarations (front ++ hit :: (middle ++ semicolon :: rest))
        (.ok ⟨declarations ++ clipDeclarations, ⟨front ++ ⟨.ident, clipTemporary⟩ ::
          (middle ++ semicolon :: (tokenize clipRecombination ++ rest))⟩⟩)

theorem clipSplit_of_eq {draft : Draft} {outcome : Except ShaderError Draft}
    (same : splitClipPosition draft = outcome) : ClipSplit draft.declarations draft.body.tokens outcome := by
  subst same
  obtain ⟨declarations, ⟨tokens⟩⟩ := draft
  obtain absent | ⟨front, hit, back, rfl, before, clip⟩ := cut_at_first (·.isIdent clipPosition) tokens
  · rw [splitClipPosition_unused absent]
    exact .unused absent
  · cases again : back.any (·.isIdent clipPosition) with
    | true =>
      rw [splitClipPosition_repeated before clip again]
      exact .repeated before clip again
    | false =>
      have once : ∀ token ∈ back, token.isIdent clipPosition = false := by simpa using again
      obtain endless | ⟨middle, semicolon, rest, rfl, between, ends⟩ := cut_at_first (·.isPunct ';') back
      · rw [splitClipPosition_endless before clip once endless]
        exact .endless before clip once endless
      · rw [splitClipPosition_ended before clip once between ends]
        exact .ended before clip once between ends

end Restoration

end ShaderPair
