import ShaderPair.Body

/-! Bodies line by line. What a line declares is decided by the kinds and texts of its first tokens,
none of which is a line end, so it can be read from the line alone. The main statements say that the
declarations of a body are those of its lines, and that collapsing matrix uniforms from the last
position to the first rewrites each line by itself. -/

namespace ShaderPair

/-- The tokens line by line, each line with the line end that closes it. -/
def tokenLines : List Token → List (List Token)
  | [] => []
  | token :: rest =>
    if token.kind = .newline then [token] :: tokenLines rest
    else match tokenLines rest with
      | [] => [[token]]
      | line :: lines => (token :: line) :: lines

/-- Lines end at their first line end. Only the last one may lack it. -/
inductive AreLines : List (List Token) → Prop where
  | nil : AreLines []
  | last {line : List Token} (filled : line ≠ []) (inner : ∀ token ∈ line, token.kind ≠ .newline) :
      AreLines [line]
  | cons (line : List Token) {ending : Token} {lines : List (List Token)}
      (inner : ∀ token ∈ line, token.kind ≠ .newline) (closed : ending.kind = .newline)
      (later : AreLines lines) : AreLines ((line ++ [ending]) :: lines)

theorem flatten_tokenLines (tokens : List Token) : (tokenLines tokens).flatten = tokens := by
  fun_induction tokenLines tokens with
  | case1 => rfl
  | case2 token rest closed ih => simp [ih]
  | case3 token rest opened lines ih => simp_all
  | case4 token rest opened line lines same ih => simp_all

theorem areLines_tokenLines (tokens : List Token) : AreLines (tokenLines tokens) := by
  fun_induction tokenLines tokens with
  | case1 => exact .nil
  | case2 token rest closed ih => exact .cons [] (by simp) closed ih
  | case3 token rest opened lines ih => exact .last (by simp) (by simpa using opened)
  | case4 token rest opened line lines same ih =>
    rw [same] at ih
    cases ih with
    | last filled inner => exact .last (by simp) (by simpa using ⟨opened, inner⟩)
    | cons line inner closed later =>
      exact .cons (token :: line) (by simpa using ⟨opened, inner⟩) closed later

def lineOffsets : Nat → List (List Token) → List Nat
  | _, [] => []
  | start, line :: lines => start :: lineOffsets (start + line.length) lines

theorem tokenLines_eq_nil {tokens : List Token} (none : tokenLines tokens = []) : tokens = [] := by
  rw [← flatten_tokenLines tokens, none, List.flatten_nil]

theorem followers_eq_offsets (tokens : List Token) (start : Nat) :
    ((tokens.zipIdx start).filterMap fun (token, position) =>
      if token.kind == .newline && position + 1 < start + tokens.length then some (position + 1) else none) =
      (lineOffsets start (tokenLines tokens)).tail := by
  induction tokens generalizing start with
  | nil => rfl
  | cons token rest ih =>
    have bound : start + (token :: rest).length = start + 1 + rest.length := by
      simp only [List.length_cons]
      omega
    rw [List.zipIdx_cons, List.filterMap_cons, bound, ih (start + 1), tokenLines]
    by_cases closed : token.kind = .newline
    · simp only [closed, BEq.rfl, Bool.true_and, decide_eq_true_eq, if_true, lineOffsets, List.length_singleton,
        List.tail_cons]
      cases lines : tokenLines rest with
      | nil => simp [tokenLines_eq_nil lines, lineOffsets]
      | cons line later =>
        have filled : rest ≠ [] := by
          rintro rfl
          cases lines
        have positive := List.length_pos_iff.mpr filled
        simp [lineOffsets, positive]
    · simp only [beq_eq_false_iff_ne.mpr closed, Bool.false_and, if_neg closed]
      cases lines : tokenLines rest with
      | nil => simp [lineOffsets]
      | cons line later => simp [lineOffsets, Nat.add_comm 1, Nat.add_assoc]

theorem Body.lineStarts_eq_offsets (body : Body) : body.lineStarts = lineOffsets 0 (tokenLines body.tokens) := by
  have followers := followers_eq_offsets body.tokens 0
  simp only [Nat.zero_add] at followers
  rw [Body.lineStarts, followers]
  cases lines : tokenLines body.tokens with
  | nil => simp [tokenLines_eq_nil lines, lineOffsets]
  | cons line rest =>
    have filled : body.tokens.isEmpty = false := by
      cases tokens : body.tokens with
      | nil => rw [tokens] at lines; cases lines
      | cons token rest => rfl
    simp [filled, lineOffsets]

/-! Readers of the first tokens of a line. -/

theorem filterMap_cons_toList {α β : Type} (read : α → Option β) (first : α) (rest : List α) :
    (first :: rest).filterMap read = (read first).toList ++ rest.filterMap read := by
  cases found : read first with
  | none => exact List.filterMap_cons_none found
  | some value => exact List.filterMap_cons_some found

/-- A reader that looks at as many tokens as there are kinds, and accepts only those kinds. -/
structure ReadsKinds {α : Type} (kinds : List TokenKind) (read : List Token → Option α) : Prop where
  local_take : ∀ tokens, read tokens = read (tokens.take kinds.length)
  kinds_of_some : ∀ tokens value, read tokens = some value →
    (tokens.take kinds.length).map Token.kind = kinds

theorem ReadsKinds.eq_none {α : Type} {kinds : List TokenKind} {read : List Token → Option α}
    (reads : ReadsKinds kinds read) {tokens : List Token}
    (differs : (tokens.take kinds.length).map Token.kind ≠ kinds) : read tokens = none := by
  cases found : read tokens with
  | none => rfl
  | some value => exact absurd (reads.kinds_of_some tokens value found) differs

def leadingDeclaration? (qualifier : Text) : List Token → Option Declaration
  | first :: gap :: type :: space :: name :: _ =>
    if first.isIdent qualifier && gap.kind == .space && type.kind == .ident &&
        space.kind == .space && name.kind == .ident then
      some ⟨type.text, name.text⟩
    else none
  | _ => none

theorem Body.declarationAt?_eq (body : Body) (qualifier : Text) (start : Nat) :
    body.declarationAt? qualifier start = leadingDeclaration? qualifier (body.tokens.drop start) := rfl

def declarationKinds : List TokenKind := [.ident, .space, .ident, .space, .ident]

theorem readsKinds_leadingDeclaration (qualifier : Text) :
    ReadsKinds declarationKinds (leadingDeclaration? qualifier) where
  local_take := by
    intro tokens
    match tokens with
    | [] | [_] | [_, _] | [_, _, _] | [_, _, _, _] | _ :: _ :: _ :: _ :: _ :: _ => rfl
  kinds_of_some := by
    intro tokens value found
    unfold leadingDeclaration? at found
    split at found
    · split at found
      · next first gap type space name rest fits =>
        simp only [Token.isIdent, Bool.and_eq_true, beq_iff_eq] at fits
        simp [declarationKinds, fits]
      · cases found
    · cases found

/-- Side and name of the matrix that the first tokens, `uniform vecN NAME[N];`, stand for. -/
def leadingMatrix? : List Token → Option (Nat × Text)
  | qualifier :: gap :: type :: space :: name :: opening :: length :: closing :: semicolon :: _ =>
    if qualifier.isIdent "uniform" && gap.kind == .space && type.kind == .ident && space.kind == .space &&
        name.kind == .ident && opening.isPunct '[' && length.kind == .number && closing.isPunct ']' &&
        semicolon.isPunct ';' then
      match (Text.after? "vec" type.text).bind Text.readWord?, Text.readWord? length.text with
      | some side, some count =>
        if side = count ∧ 2 ≤ side ∧ side ≤ 4 then some (side, name.text) else none
      | _, _ => none
    else none
  | _ => none

theorem Body.matrixSiteAt?_eq (body : Body) (start : Nat) :
    body.matrixSiteAt? start =
      (leadingMatrix? (body.tokens.drop start)).map fun found => ⟨start, found.1, found.2⟩ := by
  unfold Body.matrixSiteAt? Body.isSubscriptAt
  rw [Body.declarationAt?_eq, ← List.drop_drop]
  generalize body.tokens.drop start = tokens
  match tokens with
  | [] | [_] | [_, _] | [_, _, _] | [_, _, _, _] => rfl
  | [_, _, type, _, _] | [_, _, type, _, _, _] | [_, _, type, _, _, _, _] | [_, _, type, _, _, _, _, _] =>
    simp only [leadingDeclaration?, leadingMatrix?, List.drop_succ_cons, List.drop_zero, Bool.false_eq_true,
      if_false, Option.map_none]
    split
    · exact Option.bind_fun_none (Body.vectorWidth? type.text)
    · rfl
  | qualifier :: gap :: type :: space :: name :: opening :: length :: closing :: semicolon :: rest =>
    simp only [leadingDeclaration?, leadingMatrix?, Body.vectorWidth?, List.drop_succ_cons, List.drop_zero]
    cases declared : (qualifier.isIdent "uniform" && gap.kind == .space && type.kind == .ident &&
      space.kind == .space && name.kind == .ident) with
    | false => simp only [Bool.false_and, Bool.false_eq_true, if_false]; rfl
    | true =>
      simp only [Bool.true_and, if_true, Option.bind_eq_bind, Option.bind_some]
      generalize (Text.after? "vec" type.text).bind Text.readWord? = read
      generalize Text.readWord? length.text = count
      cases read with
      | none => simp
      | some side =>
        cases count with
        | none => simp
        | some count => grind

def matrixKinds : List TokenKind := declarationKinds ++ [.punct, .number, .punct, .punct]

theorem leadingMatrix?_shape {tokens : List Token} {side : Nat} {name : Text}
    (found : leadingMatrix? tokens = some (side, name)) :
    ∃ qualifier gap type space ident opening length closing semicolon rest,
      tokens = qualifier :: gap :: type :: space :: ident :: opening :: length :: closing :: semicolon :: rest ∧
      qualifier.isIdent "uniform" = true ∧ gap.kind = .space ∧
      (type.kind = .ident ∧ (Text.after? "vec" type.text).bind Text.readWord? = some side) ∧
      space.kind = .space ∧ (ident.kind = .ident ∧ ident.text = name) ∧ opening.isPunct '[' = true ∧
      (length.kind = .number ∧ Text.readWord? length.text = some side) ∧ closing.isPunct ']' = true ∧
      semicolon.isPunct ';' = true ∧ 2 ≤ side ∧ side ≤ 4 := by
  unfold leadingMatrix? at found
  split at found
  · next qualifier gap type space ident opening length closing semicolon rest =>
    split at found
    · next fits =>
      simp only [Bool.and_eq_true, beq_iff_eq] at fits
      split at found
      · next width count typed counted =>
        split at found
        · next range =>
          cases found
          obtain ⟨same, range⟩ := range
          refine ⟨qualifier, gap, type, space, ident, opening, length, closing, semicolon, rest, rfl, ?_⟩
          simp only [fits, typed, counted, same, true_and]
          exact same ▸ range
        · cases found
      · cases found
    · cases found
  · cases found

theorem readsKinds_leadingMatrix : ReadsKinds matrixKinds leadingMatrix? where
  local_take := by
    intro tokens
    match tokens with
    | [] | [_] | [_, _] | [_, _, _] | [_, _, _, _] | [_, _, _, _, _] | [_, _, _, _, _, _]
    | [_, _, _, _, _, _, _] | [_, _, _, _, _, _, _, _] | _ :: _ :: _ :: _ :: _ :: _ :: _ :: _ :: _ :: _ => rfl
  kinds_of_some := by
    rintro tokens ⟨side, name⟩ found
    obtain ⟨qualifier, gap, type, space, ident, opening, length, closing, semicolon, rest, rfl, fits⟩ :=
      leadingMatrix?_shape found
    simp only [Token.isIdent, Token.isPunct, Bool.and_eq_true, beq_iff_eq] at fits
    simp [matrixKinds, declarationKinds, fits]

/-- A line that is closed, or that nothing follows, can be read without what follows it. -/
theorem ReadsKinds.append {α : Type} {kinds : List TokenKind} {read : List Token → Option α}
    (reads : ReadsKinds kinds read) (inner : TokenKind.newline ∉ kinds) {line rest : List Token}
    (closed : (∃ token ∈ line, token.kind = .newline) ∨ rest = []) :
    read (line ++ rest) = read line := by
  rcases closed with ⟨token, member, closed⟩ | rfl
  · by_cases short : line.length ≤ kinds.length
    -- The line end is among the tokens looked at, so neither list is accepted.
    · have refused : ∀ tokens, token ∈ tokens.take kinds.length → read tokens = none := by
        intro tokens among
        cases found : read tokens with
        | none => rfl
        | some value =>
          have same := reads.kinds_of_some tokens value found
          have present := List.mem_map_of_mem (f := Token.kind) among
          rw [same, closed] at present
          exact absurd present inner
      rw [refused line, refused (line ++ rest)]
      · rw [List.take_append]
        exact List.mem_append_left _ (by rwa [List.take_of_length_le short])
      · rwa [List.take_of_length_le short]
    · rw [reads.local_take, reads.local_take line, List.take_append_of_le_length (by omega)]
  · rw [List.append_nil]

theorem ReadsKinds.concat {α : Type} {kinds : List TokenKind} {read : List Token → Option α}
    (reads : ReadsKinds kinds read) (inner : TokenKind.newline ∉ kinds) (line : List Token) {ending : Token}
    (closed : ending.kind = .newline) : read (line ++ [ending]) = read line := by
  by_cases long : kinds.length ≤ line.length
  · rw [reads.local_take, List.take_append_of_le_length long, ← reads.local_take]
  -- The line is too short by itself, and with its end it is of the wrong kinds.
  · rw [reads.eq_none, reads.eq_none]
    · intro same
      have count := congrArg List.length same
      simp only [List.length_map, List.length_take] at count
      omega
    · have whole : (line ++ [ending]).length ≤ kinds.length := by
        rw [List.length_append, List.length_singleton]
        omega
      rw [List.take_of_length_le whole]
      intro same
      apply inner
      rw [← same, ← closed]
      exact List.mem_map_of_mem (List.mem_append_right line (List.mem_singleton_self ending))

theorem AreLines.tail {line : List Token} {lines : List (List Token)} (areLines : AreLines (line :: lines)) :
    AreLines lines := by
  cases areLines with
  | last filled inner => exact .nil
  | cons line inner closed later => exact later

theorem AreLines.closed_or_last {line : List Token} {lines : List (List Token)}
    (areLines : AreLines (line :: lines)) : (∃ token ∈ line, token.kind = .newline) ∨ lines.flatten = [] := by
  cases areLines with
  | last filled inner => exact .inr rfl
  | @cons line ending lines inner closed later => exact .inl ⟨ending, by simp, closed⟩

theorem ReadsKinds.filterMap_offsets {α : Type} {kinds : List TokenKind} {read : List Token → Option α}
    (reads : ReadsKinds kinds read) (inner : TokenKind.newline ∉ kinds) (before : List Token)
    {lines : List (List Token)} (areLines : AreLines lines) :
    ((lineOffsets before.length lines).filterMap fun start => read ((before ++ lines.flatten).drop start)) =
      lines.filterMap read := by
  induction lines generalizing before with
  | nil => rfl
  | cons line lines ih =>
    have later := ih (before ++ line) areLines.tail
    rw [List.length_append, List.append_assoc] at later
    rw [lineOffsets, List.filterMap_cons, List.filterMap_cons, List.flatten_cons, later, List.drop_left,
      reads.append inner areLines.closed_or_last]

theorem Body.declarations_eq_lines (body : Body) (qualifier : Text) :
    body.declarations qualifier = (tokenLines body.tokens).filterMap (leadingDeclaration? qualifier) := by
  have read := (readsKinds_leadingDeclaration qualifier).filterMap_offsets (by decide) []
    (areLines_tokenLines body.tokens)
  rw [flatten_tokenLines] at read
  rw [Body.declarations, Body.lineStarts_eq_offsets]
  exact read

/-- A line that stands for a matrix declares it as one and loses its subscript. -/
def collapseLine (line : List Token) : List Token :=
  match leadingMatrix? line with
  | some (side, _) =>
    line.take 2 ++ ⟨.ident, "mat" ++ Text.decimal side⟩ :: (line.drop 3).take 2 ++ line.drop 8
  | none => line

theorem collapseAt_append (before line rest : List Token) (side : Nat) (name : Text) (long : 8 ≤ line.length) :
    Body.collapseAt ⟨before.length, side, name⟩ (before ++ (line ++ rest)) =
      before ++ (line.take 2 ++ ⟨.ident, "mat" ++ Text.decimal side⟩ :: (line.drop 3).take 2 ++
        line.drop 8 ++ rest) := by
  obtain ⟨front, tail, rfl, eight⟩ : ∃ front tail, line = front ++ tail ∧ front.length = 8 :=
    ⟨line.take 8, line.drop 8, (List.take_append_drop 8 line).symm, List.length_take_of_le long⟩
  match front, eight with
  | [_, _, _, _, _, _, _, _], _ =>
    simp [Body.collapseAt, List.take_append, List.drop_append, List.take_of_length_le, List.drop_eq_nil_of_le]

theorem foldr_collapseAt (before : List Token) {lines : List (List Token)} (areLines : AreLines lines) :
    ((lineOffsets before.length lines).filterMap
        (Body.matrixSiteAt? ⟨before ++ lines.flatten⟩)).foldr Body.collapseAt (before ++ lines.flatten) =
      before ++ lines.flatMap collapseLine := by
  induction lines generalizing before with
  | nil => rfl
  | cons line lines ih =>
    have later := ih (before ++ line) areLines.tail
    rw [List.length_append, List.append_assoc] at later
    rw [lineOffsets, List.filterMap_cons, List.flatten_cons, Body.matrixSiteAt?_eq, List.drop_left,
      readsKinds_leadingMatrix.append (by decide) areLines.closed_or_last, List.flatMap_cons, collapseLine]
    cases found : leadingMatrix? line with
    | none =>
      rw [Option.map_none]
      simpa using later
    | some matrix =>
      obtain ⟨side, name⟩ := matrix
      have long : 8 ≤ line.length := by
        obtain ⟨_, _, _, _, _, _, _, _, _, _, rfl, _⟩ := leadingMatrix?_shape found
        simp
      rw [Option.map_some]
      simp only [List.foldr_cons]
      rw [later, List.append_assoc, collapseAt_append _ _ _ _ _ long]

theorem Body.collapse_eq_lines (body : Body) :
    body.collapse.tokens = (tokenLines body.tokens).flatMap collapseLine := by
  have fold := foldr_collapseAt [] (areLines_tokenLines body.tokens)
  simp only [List.nil_append, List.length_nil, flatten_tokenLines] at fold
  rw [Body.collapse, Body.matrixSites, Body.lineStarts_eq_offsets]
  exact fold

end ShaderPair
