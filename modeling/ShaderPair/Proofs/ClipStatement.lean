import ShaderPair.Proofs.FirstFaults
import ShaderPair.Proofs.HiddenWords

/-! The statement of the clip position. The temporary takes the place of the clip position in whatever statement
that is, and the recombination follows. The main statement says that nothing is asked of the statement but a
semicolon after it, and that the temporary gets a value there exactly when the clip position did. -/

namespace ShaderPair.Restoration

/-- Whether a name is assigned to, by the tokens after it. -/
def assigns (after : List Token) : Bool :=
  match after.dropWhile Token.isBlank with
  | sign :: next => sign.isPunct '=' && !next.head?.any (·.isPunct '=')
  | [] => false

/-- Every clip position is assigned to. -/
def ClipAssigned (tokens : List Token) : Prop :=
  ∀ front after, tokens = front ++ ⟨.ident, clipPosition⟩ :: after → assigns after = true

/-- The one clip position, the tokens before it, and those after it up to a semicolon and beyond. -/
structure ClipStatement (tokens front statement rest : List Token) : Prop where
  shape : tokens = front ++ ⟨.ident, clipPosition⟩ :: (statement ++ ⟨.punct, [';']⟩ :: rest)
  alone : ∀ token ∈ front ++ statement ++ rest, token.isIdent clipPosition = false
  unended : ∀ token ∈ statement, token.isPunct ';' = false

/-- What is left of the tokens from a position on, once matrices are collapsed and inputs renamed. -/
def remaining (tokens : List Token) (start : Nat) (part : List Token) : List Token :=
  (part.zipIdx start).filterMap (inputsNamed? tokens)

/-! Which statements are accepted. -/

theorem ClipStatement.parts {tokens front statement rest : List Token}
    (clip : ClipStatement tokens front statement rest) :
    (∀ token ∈ front, token.isIdent clipPosition = false) ∧
      (∀ token ∈ statement, token.isIdent clipPosition = false) ∧
      ∀ token ∈ rest, token.isIdent clipPosition = false := by
  have alone := clip.alone
  simp only [List.forall_mem_append] at alone
  exact ⟨alone.1.1, alone.1.2, alone.2⟩

theorem exists_clipStatement {tokens : List Token} (used : tokens.any (·.isIdent clipPosition) = true)
    (accepted : clipFault? tokens = none) : ∃ front statement rest, ClipStatement tokens front statement rest := by
  obtain absent | ⟨front, hit, back, rfl, before, isClip⟩ := cut_at_first (·.isIdent clipPosition) tokens
  · have unused : tokens.any (·.isIdent clipPosition) = false := by simpa using absent
    cases used.symm.trans unused
  · simp only [clipFault?, clipEnded_append back before isClip, countP_append_cons back before isClip] at accepted
    split at accepted
    · cases accepted
    · next once =>
      have single : back.countP (·.isIdent clipPosition) = 0 := by omega
      have after : ∀ token ∈ back, token.isIdent clipPosition = false := by simpa using single
      obtain endless | ⟨statement, semicolon, rest, rfl, unended, ends⟩ := cut_at_first (·.isPunct ';') back
      · have unmarked : back.any (·.isPunct ';') = false := by simpa using endless
        simp [single, unmarked] at accepted
      · refine ⟨front, statement, rest, ?_, ?_, unended⟩
        · rw [(Token.isIdent_iff hit clipPosition).mp isClip, (Token.isPunct_iff semicolon ';').mp ends]
        · simp only [List.forall_mem_append, List.forall_mem_cons] at after ⊢
          exact ⟨⟨before, after.1⟩, after.2.2⟩

theorem ClipStatement.count {tokens front statement rest : List Token}
    (clip : ClipStatement tokens front statement rest) : tokens.countP (·.isIdent clipPosition) = 1 := by
  obtain ⟨before, within, after⟩ := clip.parts
  rw [clip.shape, countP_append_cons _ before rfl, List.countP_append, List.countP_cons, countP_unmarked within,
    countP_unmarked after]
  rfl

theorem ClipStatement.accepted {tokens front statement rest : List Token}
    (clip : ClipStatement tokens front statement rest) :
    tokens.any (·.isIdent clipPosition) = true ∧ clipFault? tokens = none := by
  have count := clip.count
  have ended : clipEnded tokens = true := by
    rw [clip.shape, clipEnded_append _ clip.parts.1 rfl]
    simp [Token.isPunct]
  refine ⟨?_, ?_⟩
  · have positive : 0 < tokens.countP (·.isIdent clipPosition) := by omega
    simpa using positive
  · simp [clipFault?, count, ended]

/-- A clip position is accepted wherever a semicolon follows it. -/
theorem clip_accepted_iff (tokens : List Token) :
    tokens.any (·.isIdent clipPosition) = true ∧ clipFault? tokens = none ↔
      ∃ front statement rest, ClipStatement tokens front statement rest := by
  constructor
  · intro accepted
    exact exists_clipStatement accepted.1 accepted.2
  · intro stated
    obtain ⟨front, statement, rest, clip⟩ := stated
    exact clip.accepted

theorem normalFault?_eq_none {tokens : List Token} :
    normalFault? tokens = none ↔ ∀ token ∈ tokens, token.isIdent "gl_Normal" = false := by
  rw [normalFault?]
  cases used : tokens.any (·.isIdent "gl_Normal") with
  | true => simpa using used
  | false => simpa using used

theorem finishBody_ok_iff (tokens : List Token) :
    (∃ restored, finishBody ⟨tokens⟩ = .ok restored) ↔
      (∀ token ∈ tokens, token.isIdent "gl_Normal" = false) ∧ clipFault? tokens = none := by
  rw [← Progress.fault?_eq_none, fault?_finishBody, Option.or_eq_none_iff, normalFault?_eq_none]

theorem restoreBody_ok_iff (symbols : SymbolMap) (text : Text) :
    (∃ restored, restoreBody symbols text = .ok restored) ↔
      Restorable symbols (.ofText text) ∧
        (∀ token ∈ restoredTokens symbols (.ofText text), token.isIdent "gl_Normal" = false) ∧
        clipFault? (restoredTokens symbols (.ofText text)) = none := by
  rw [← finishBody_ok_iff]
  constructor
  · intro succeeds
    obtain ⟨restored, succeeds⟩ := succeeds
    obtain ⟨restorable, finished⟩ := restoreBody_eq_ok.mp succeeds
    exact ⟨restorable, restored, finished⟩
  · intro succeeds
    obtain ⟨restorable, restored, finished⟩ := succeeds
    exact ⟨restored, restoreBody_eq_ok.mpr ⟨restorable, finished⟩⟩

/-! What is assigned to. -/

theorem assigns_blank {token : Token} (blank : token.isBlank = true) (rest : List Token) :
    assigns (token :: rest) = assigns rest := by
  rw [assigns, List.dropWhile_cons_of_pos blank, assigns]

theorem assigns_solid {token : Token} (solid : token.isBlank = false) (rest : List Token) :
    assigns (token :: rest) = (token.isPunct '=' && !rest.head?.any (·.isPunct '=')) := by
  rw [assigns, List.dropWhile_cons_of_neg (by simp [solid])]

theorem remaining_cons (tokens : List Token) (start : Nat) (token : Token) (part : List Token) :
    remaining tokens start (token :: part) =
      (inputsNamed? tokens (token, start)).toList ++ remaining tokens (start + 1) part := by
  rw [remaining, List.zipIdx_cons, filterMap_cons_toList, remaining]

theorem remaining_append (tokens : List Token) (start : Nat) (first second : List Token) :
    remaining tokens start (first ++ second) =
      remaining tokens start first ++ remaining tokens (start + first.length) second := by
  rw [remaining, List.zipIdx_append, List.filterMap_append]
  rfl

theorem mem_zipIdx_of_append {tokens before rest : List Token} {token : Token}
    (same : tokens = before ++ token :: rest) : (token, before.length) ∈ tokens.zipIdx := by
  rw [same, List.mk_mem_zipIdx_iff_getElem?]
  simp

theorem inputsNamed?_subscript {tokens : List Token} {item : Token × Nat} (member : item ∈ tokens.zipIdx)
    (inside : inSubscript tokens item.2 = true) : inputsNamed? tokens item = none := by
  rw [inputsNamed?, collapsed?]
  cases typed : matrixType? tokens item.2 with
  | some side => exact absurd (matrixType?_ident member typed).1 (inSubscript_other member inside).1
  | none =>
    rw [inside]
    rfl

theorem inputsNamed?_outside {tokens : List Token} {item : Token × Nat} (member : item ∈ tokens.zipIdx)
    (outside : inSubscript tokens item.2 = false) :
    ∃ left, inputsNamed? tokens item = some left ∧ left.isBlank = item.1.isBlank ∧
      ∀ c, left.isPunct c = item.1.isPunct c := by
  rw [inputsNamed?, collapsed?, outside]
  cases typed : matrixType? tokens item.2 with
  | some side =>
    have word := (matrixType?_ident member typed).1
    refine ⟨_, rfl, ?_, ?_⟩
    · rw [Token.isBlank, Token.isBlank, Token.rename_kind, word]
    · intro c
      rw [isPunct_rename, Token.isPunct, Token.isPunct, word]
      rfl
  | none =>
    refine ⟨_, rfl, ?_, ?_⟩
    · rw [Token.isBlank, Token.isBlank, Token.rename_kind]
    · exact isPunct_rename _ item.1

theorem remaining_subscript {tokens before part rest : List Token} (same : tokens = before ++ part ++ rest)
    (covered : ∀ offset < part.length, inSubscript tokens (before.length + offset) = true) :
    remaining tokens before.length part = [] := by
  rw [remaining, List.filterMap_eq_nil_iff]
  intro item member
  obtain ⟨token, position⟩ := item
  have above := List.le_snd_of_mem_zipIdx member
  have below := List.snd_lt_of_mem_zipIdx member
  have place : position = before.length + (position - before.length) := by omega
  apply inputsNamed?_subscript
  · rw [same, List.zipIdx_append, List.zipIdx_append, Nat.zero_add]
    exact List.mem_append_left _ (List.mem_append_right _ member)
  · rw [place]
    exact covered _ (by omega)

theorem inputsNamed?_semicolon {tokens : List Token} {position : Nat}
    (place : ((⟨.punct, [';']⟩ : Token), position) ∈ tokens.zipIdx) :
    inputsNamed? tokens (⟨.punct, [';']⟩, position) = some ⟨.punct, [';']⟩ := by
  have ends := isPunct_inputsNamed place
  cases named : inputsNamed? tokens (⟨.punct, [';']⟩, position) with
  | none =>
    rw [named] at ends
    cases ends
  | some left =>
    rw [named, Option.any_some] at ends
    rw [(Token.isPunct_iff left ';').mp ends]

theorem remaining_semicolon {tokens before rest : List Token} (same : tokens = before ++ ⟨.punct, [';']⟩ :: rest) :
    remaining tokens before.length (⟨.punct, [';']⟩ :: rest) =
      ⟨.punct, [';']⟩ :: remaining tokens (before.length + 1) rest := by
  rw [remaining_cons, inputsNamed?_semicolon (mem_zipIdx_of_append same)]
  rfl

/-- Before a token of a subscript there is a name, and then the subscript is all before a semicolon, or else there
is a token of the subscript. -/
theorem subscript_after {tokens before part : List Token} (same : tokens = before ++ part)
    (inside : inSubscript tokens before.length = true) :
    ∃ early last, before = early ++ [last] ∧
      (last.kind = .ident ∧ (∃ opening length closing rest,
          part = opening :: length :: closing :: ⟨.punct, [';']⟩ :: rest ∧ opening.isPunct '[' = true) ∧
          (∀ offset < 3, inSubscript tokens (before.length + offset) = true) ∨
        last.isPunct '[' = true ∨ last.kind = .number) := by
  obtain ⟨offset, among, holds⟩ := List.any_eq_true.mp inside
  simp only [Bool.and_eq_true, decide_eq_true_eq] at holds
  obtain ⟨reachable, found⟩ := holds
  obtain ⟨⟨side, name⟩, leads⟩ := Option.isSome_iff_exists.mp found
  have leading := leads
  unfold matrixAt? at leading
  split at leading
  · obtain ⟨_, _, _, _, ident, opening, length, closing, semicolon, rest, shape, fits⟩ := leadingMatrix?_shape leading
    obtain ⟨_, _, _, _, ⟨word, _⟩, opens, ⟨number, _⟩, _, ends, _⟩ := fits
    rw [(Token.isPunct_iff semicolon ';').mp ends] at shape
    -- The declaration covers the tokens before this one, back to its first.
    have cut : part = (tokens.drop (before.length - offset)).drop offset := by
      rw [List.drop_drop, Nat.sub_add_cancel reachable, same, List.drop_left]
    have front :
        before = tokens.take (before.length - offset) ++ (tokens.drop (before.length - offset)).take offset := by
      rw [← List.take_add, Nat.sub_add_cancel reachable, same, List.take_left]
    rw [shape] at cut front
    simp only [List.mem_cons, List.not_mem_nil, or_false] at among
    rcases among with rfl | rfl | rfl
    · refine ⟨_, ident, front.trans (List.append_assoc _ [_, _, _, _] [ident]).symm,
        .inl ⟨word, ⟨opening, length, closing, rest, cut, opens⟩, ?_⟩⟩
      intro offset small
      rw [inSubscript, List.any_eq_true]
      refine ⟨offset + 5, by simp only [List.mem_cons, List.not_mem_nil, or_false]; omega, ?_⟩
      have start : before.length + offset - (offset + 5) = before.length - 5 := by omega
      rw [start, leads, decide_eq_true (by omega)]
      rfl
    · exact ⟨_, opening, front.trans (List.append_assoc _ [_, _, _, _, _] [opening]).symm, .inr (.inl opens)⟩
    · exact ⟨_, length, front.trans (List.append_assoc _ [_, _, _, _, _, _] [length]).symm, .inr (.inr number)⟩
  · cases leading

theorem head_remaining {tokens before part : List Token} {sign : Token} (same : tokens = before ++ sign :: part)
    (isSign : sign.isPunct '=' = true) (c : Char) :
    (remaining tokens (before.length + 1) part).head?.any (·.isPunct c) = part.head?.any (·.isPunct c) := by
  cases part with
  | nil => rfl
  | cons token rest =>
    have shape : tokens = (before ++ [sign]) ++ token :: rest := by rw [same]; simp
    have position : before.length + 1 = (before ++ [sign]).length := by simp
    rw [position]
    have outside : inSubscript tokens (before ++ [sign]).length = false := by
      cases inside : inSubscript tokens (before ++ [sign]).length with
      | false => rfl
      | true =>
        obtain ⟨early, last, ends, kinds⟩ := subscript_after shape inside
        obtain ⟨_, rfl⟩ := List.concat_inj.mp (by simpa using ends)
        rw [(Token.isPunct_iff sign '=').mp isSign] at kinds
        rcases kinds with ⟨word, _⟩ | opens | number
        · cases word
        · exact absurd opens (by decide)
        · cases number
    obtain ⟨left, named, _, marks⟩ := inputsNamed?_outside (mem_zipIdx_of_append shape) outside
    rw [remaining_cons, named]
    exact marks c

theorem assigns_remaining_subscript {tokens before subscript rest : List Token}
    (same : tokens = before ++ subscript ++ ⟨.punct, [';']⟩ :: rest)
    (covered : ∀ offset < subscript.length, inSubscript tokens (before.length + offset) = true) :
    assigns (remaining tokens before.length (subscript ++ ⟨.punct, [';']⟩ :: rest)) = false := by
  rw [remaining_append, remaining_subscript same covered, List.nil_append, ← List.length_append,
    remaining_semicolon same, assigns_solid rfl]
  rfl

/-- Collapsing and renaming neither make an assignment to a name nor undo one. -/
theorem assigns_remaining {tokens before part : List Token} (same : tokens = before ++ part)
    (unopened : ∀ last ∈ before.getLast?, last.kind ≠ .punct ∧ last.kind ≠ .number) :
    assigns (remaining tokens before.length part) = assigns part := by
  induction part generalizing before with
  | nil => rfl
  | cons token part ih =>
    cases inside : inSubscript tokens before.length with
    | true =>
      obtain ⟨early, last, rfl, kinds⟩ := subscript_after same inside
      rcases kinds with ⟨_, ⟨opening, length, closing, rest, shape, opens⟩, covered⟩ | opens | number
      -- The subscript goes, and the semicolon after it is no assignment either.
      · have bracket := (Token.isPunct_iff opening '[').mp opens
        have whole : tokens = (early ++ [last]) ++ [opening, length, closing] ++ ⟨.punct, [';']⟩ :: rest := by
          rw [same, shape, List.append_assoc _ _ (_ :: rest)]
          rfl
        have unassigned : assigns (opening :: length :: closing :: ⟨.punct, [';']⟩ :: rest) = false := by
          rw [bracket, assigns_solid rfl]
          rfl
        rw [shape, unassigned]
        exact assigns_remaining_subscript whole covered
      · have mark : last.kind = .punct := by rw [(Token.isPunct_iff last '[').mp opens]
        exact absurd mark (unopened last (by simp)).1
      · exact absurd number (unopened last (by simp)).2
    | false =>
      obtain ⟨left, named, blank, marks⟩ := inputsNamed?_outside (mem_zipIdx_of_append same) inside
      rw [remaining_cons, named]
      change assigns (left :: remaining tokens (before.length + 1) part) = _
      cases isBlank : token.isBlank with
      | true =>
        have longer : tokens = (before ++ [token]) ++ part := by rw [same]; simp
        have kinds : token.kind ≠ .punct ∧ token.kind ≠ .number := by
          rw [Token.isBlank, Bool.or_eq_true, beq_iff_eq, beq_iff_eq] at isBlank
          rcases isBlank with space | newline
          · rw [space]
            decide
          · rw [newline]
            decide
        have later := ih longer (by simpa using kinds)
        rw [List.length_append, List.length_singleton] at later
        rw [assigns_blank (blank.trans isBlank), assigns_blank isBlank, later]
      | false =>
        rw [assigns_solid (blank.trans isBlank), assigns_solid isBlank, marks]
        cases isSign : token.isPunct '=' with
        | false => rfl
        | true => rw [head_remaining same isSign]

theorem assigns_ended (part rest : List Token) : assigns (part ++ ⟨.punct, [';']⟩ :: rest) = assigns part := by
  induction part with
  | nil => rfl
  | cons token part ih =>
    rw [List.cons_append]
    cases blank : token.isBlank with
    | true => rw [assigns_blank blank, assigns_blank blank, ih]
    | false =>
      rw [assigns_solid blank, assigns_solid blank]
      cases part with
      | nil => rfl
      | cons next part => rfl

theorem ClipStatement.assigned_iff {tokens front statement rest : List Token}
    (clip : ClipStatement tokens front statement rest) : ClipAssigned tokens ↔ assigns statement = true := by
  rw [← assigns_ended statement rest]
  constructor
  · intro assigned
    exact assigned front _ clip.shape
  · intro assigned early late same
    obtain ⟨before, within, after⟩ := clip.parts
    have absent {part : List Token} (unmarked : ∀ token ∈ part, token.isIdent clipPosition = false) :
        ⟨.ident, clipPosition⟩ ∉ part := fun member => Bool.noConfusion (unmarked _ member)
    have behind : ⟨.ident, clipPosition⟩ ∉ statement ++ ⟨.punct, [';']⟩ :: rest := by
      simp [absent within, absent after]
    -- Any other cut is at this clip position too, since there is no other.
    obtain ⟨_, _, rfl⟩ := (List.append_cons_inj_of_notMem (absent before) behind).mp (clip.shape.symm.trans same)
    exact assigned

def writtenAfter (tokens front statement rest : List Token) : List Token :=
  remaining tokens (front.length + 1) statement ++ ⟨.punct, [';']⟩ ::
    (tokenize clipRecombination ++ remaining tokens (front.length + 1 + statement.length + 1) rest)

section

variable {tokens front statement rest : List Token} (clip : ClipStatement tokens front statement rest)

include clip

theorem ClipStatement.onePass_eq :
    onePass tokens = render (remaining tokens 0 front ++ ⟨.ident, clipTemporary⟩ ::
      writtenAfter tokens front statement rest) := by
  obtain ⟨before, within, after⟩ := clip.parts
  have shape : tokens = (front ++ ⟨.ident, clipPosition⟩ :: statement) ++ ⟨.punct, [';']⟩ :: rest := by
    rw [clip.shape]
    simp
  have place := mem_zipIdx_of_append shape
  rw [show (front ++ (⟨.ident, clipPosition⟩ : Token) :: statement).length = front.length + 1 + statement.length by
    rw [List.length_append, List.length_cons]; omega] at place
  rw [onePass_append before rfl within clip.unended rfl after tokens clip.shape, tokenText_eq rfl,
    inputsNamed?_semicolon place]
  simp only [writtenAfter, remaining, render_append, render_cons, render_tokenize]
  rfl

theorem ClipStatement.assigns_writtenAfter :
    assigns (writtenAfter tokens front statement rest) = true ↔ ClipAssigned tokens := by
  have shape : tokens = (front ++ [⟨.ident, clipPosition⟩]) ++ (statement ++ ⟨.punct, [';']⟩ :: rest) := by
    rw [clip.shape, List.append_assoc]
    rfl
  have kept := assigns_remaining shape (by simp)
  rw [remaining_append, ← List.length_append, remaining_semicolon (shape.trans (List.append_assoc _ statement _).symm),
    assigns_ended, assigns_ended, List.length_append, List.length_singleton] at kept
  rw [clip.assigned_iff, writtenAfter, assigns_ended, kept]

end

/-- A body with a clip position is restored exactly when its names can be, the normal is not in it, and the one clip
position has a semicolon after it. It need not be assigned to: the temporary is put in its place as it is, and
is assigned to exactly when the clip position was. -/
theorem restoreBody_clip_statement (symbols : SymbolMap) (text : Text) :
    let tokens := restoredTokens symbols (.ofText text)
    ((∃ restored, restoreBody symbols text = .ok restored) ∧ tokens.any (·.isIdent clipPosition) = true ↔
      Restorable symbols (.ofText text) ∧ (∀ token ∈ tokens, token.isIdent "gl_Normal" = false) ∧
        ∃ front statement rest, ClipStatement tokens front statement rest) ∧
      ∀ restored front statement rest, restoreBody symbols text = .ok restored →
        ClipStatement tokens front statement rest →
          restored.body = render (remaining tokens 0 front ++ ⟨.ident, clipTemporary⟩ ::
            writtenAfter tokens front statement rest) ∧
          (assigns (writtenAfter tokens front statement rest) = true ↔ ClipAssigned tokens) := by
  intro tokens
  refine ⟨?_, ?_⟩
  · rw [restoreBody_ok_iff, ← clip_accepted_iff]
    constructor
    · intro accepted
      obtain ⟨⟨restorable, normal, unfaulted⟩, used⟩ := accepted
      exact ⟨restorable, normal, used, unfaulted⟩
    · intro accepted
      obtain ⟨restorable, normal, used, unfaulted⟩ := accepted
      exact ⟨⟨restorable, normal, unfaulted⟩, used⟩
  · intro restored front statement rest succeeds clip
    obtain ⟨_, finished⟩ := restoreBody_eq_ok.mp succeeds
    refine ⟨?_, clip.assigns_writtenAfter⟩
    rw [(finishBody_eq_onePass finished).1]
    exact clip.onePass_eq

def clipReadBody : Text := "x = gl_Position.w;"

theorem clipReadBody_restored :
    ¬∀ restored, restoreBody .empty clipReadBody = .ok restored →
      ClipAssigned (restoredTokens .empty (.ofText clipReadBody)) := by
  intro always
  have succeeds : restoreBody .empty clipReadBody =
      .ok ⟨clipDeclarations, "x = _glPositionTemp.w;" ++ clipRecombination⟩ := by decide +kernel
  have assigned := always _ succeeds (tokenize "x = ") (tokenize ".w;") (by decide +kernel)
  exact absurd assigned (by decide +kernel)

/-- One clip position is set over two lines, the other is declared as a matrix. -/
def clipSetBody : Text := "gl_Position\n\t= gl_Vertex == a;\nb"

def clipDeclaredBody : Text := "uniform vec4 _p[4];"

def clipDeclaredSymbols : SymbolMap := .ofPairs [("_p", ⟨"gl_Position", .plain⟩)]

def clipSetResult : Restored :=
  ⟨"attribute vec4 position;" :: clipDeclarations, "_glPositionTemp\n\t= position == a;" ++ clipRecombination ++ "\nb"⟩

theorem restoreBody_clip_statement_set :
    restoreBody .empty clipSetBody = .ok clipSetResult ∧
      ClipAssigned (restoredTokens .empty (.ofText clipSetBody)) ∧
      restoreBody clipDeclaredSymbols clipDeclaredBody =
        .ok ⟨clipDeclarations, "uniform mat4 _glPositionTemp;" ++ clipRecombination⟩ ∧
      ¬ClipAssigned (restoredTokens clipDeclaredSymbols (.ofText clipDeclaredBody)) := by
  have set : ClipStatement (restoredTokens .empty (.ofText clipSetBody)) [] (tokenize "\n\t= gl_Vertex == a")
      (tokenize "\nb") := ⟨by decide +kernel, by decide +kernel, by decide +kernel⟩
  have declared : ClipStatement (restoredTokens clipDeclaredSymbols (.ofText clipDeclaredBody))
      (tokenize "uniform vec4 ") (tokenize "[4]") [] := ⟨by decide +kernel, by decide +kernel, by decide +kernel⟩
  have written : restoreBody clipDeclaredSymbols clipDeclaredBody =
      .ok ⟨clipDeclarations, "uniform mat4 _glPositionTemp;" ++ clipRecombination⟩ := by decide +kernel
  have succeeds : restoreBody .empty clipSetBody = .ok clipSetResult := by decide +kernel
  have assigned := (restoreBody_clip_statement .empty clipSetBody).2 _ _ _ _ succeeds set
  refine ⟨succeeds, assigned.2.mp (by decide +kernel), written, ?_⟩
  intro always
  have unset := (restoreBody_clip_statement clipDeclaredSymbols clipDeclaredBody).2 _ _ _ _ written declared
  exact absurd (unset.2.mpr always) (by decide +kernel)

end ShaderPair.Restoration
