import ShaderPair.Proofs.BuiltinInputs
import ShaderPair.Proofs.GeneratedNames
import ShaderPair.Proofs.TokenLines

/-! Bodies without matrix declarations. Collapsing leaves no line that could collapse again, and neither
new names nor tokens put in after a semicolon make one. The main statements say that such a body has no
names to collapse and that collapsing leaves it as it is. -/

namespace ShaderPair

/-! Lines put together again. -/

theorem tokenLines_closed {line : List Token} (inner : ∀ token ∈ line, token.kind ≠ .newline) {ending : Token}
    (closed : ending.kind = .newline) (rest : List Token) :
    tokenLines (line ++ ending :: rest) = (line ++ [ending]) :: tokenLines rest := by
  induction line with
  | nil => simp [tokenLines, closed]
  | cons token line ih =>
    have opened : token.kind ≠ .newline := inner token List.mem_cons_self
    have later := ih fun other member => inner other (List.mem_cons_of_mem _ member)
    rw [List.cons_append, tokenLines, if_neg opened, later]
    rfl

theorem tokenLines_within {part : List Token} (inner : ∀ token ∈ part, token.kind ≠ .newline) {rest line : List Token}
    {lines : List (List Token)} (same : tokenLines rest = line :: lines) :
    tokenLines (part ++ rest) = (part ++ line) :: lines := by
  induction part with
  | nil => exact same
  | cons token part ih =>
    have opened : token.kind ≠ .newline := inner token List.mem_cons_self
    have later := ih fun other member => inner other (List.mem_cons_of_mem _ member)
    rw [List.cons_append, tokenLines, if_neg opened, later]
    rfl

theorem tokenLines_unclosed {line : List Token} (filled : line ≠ [])
    (inner : ∀ token ∈ line, token.kind ≠ .newline) : tokenLines line = [line] := by
  obtain ⟨front, last, rfl⟩ : ∃ front last, line = front ++ [last] :=
    ⟨line.dropLast, line.getLast filled, (List.dropLast_concat_getLast filled).symm⟩
  have opened : last.kind ≠ .newline := inner last (by simp)
  have single : tokenLines [last] = [[last]] := by simp [tokenLines, opened]
  exact tokenLines_within (fun token member => inner token (List.mem_append_left _ member)) single

theorem tokenLines_flatten {lines : List (List Token)} (areLines : AreLines lines) :
    tokenLines lines.flatten = lines := by
  induction areLines with
  | nil => rfl
  | last filled inner => simpa using tokenLines_unclosed filled inner
  | cons line inner closed later ih =>
    rw [List.flatten_cons, List.append_assoc, List.singleton_append, tokenLines_closed inner closed, ih]

theorem tokenLines_insert (front back : List Token) {mark : Token} (marked : mark.kind ≠ .newline)
    {inserted : List Token} (inner : ∀ token ∈ inserted, token.kind ≠ .newline) :
    ∃ before opening closing after,
      tokenLines (front ++ mark :: back) = before ++ (opening ++ mark :: closing) :: after ∧
      tokenLines (front ++ mark :: (inserted ++ back)) =
        before ++ (opening ++ mark :: (inserted ++ closing)) :: after := by
  induction front with
  | nil =>
    have whole : ∀ token ∈ mark :: inserted, token.kind ≠ .newline := by simpa [marked] using inner
    have alone : ∀ token ∈ [mark], token.kind ≠ .newline := by simpa using marked
    cases lines : tokenLines back with
    | nil =>
      obtain rfl := tokenLines_eq_nil lines
      exact ⟨[], [], [], [], tokenLines_unclosed (by simp) alone,
        by simpa using tokenLines_unclosed (by simp) whole⟩
    | cons line later =>
      exact ⟨[], [], line, later, tokenLines_within alone lines, tokenLines_within whole lines⟩
  | cons token front ih =>
    obtain ⟨before, opening, closing, after, plain, longer⟩ := ih
    rw [List.cons_append, List.cons_append, tokenLines, tokenLines, plain, longer]
    by_cases closed : token.kind = .newline
    · exact ⟨[token] :: before, opening, closing, after, by simp [closed], by simp [closed]⟩
    · rw [if_neg closed, if_neg closed]
      cases before with
      | nil => exact ⟨[], token :: opening, closing, after, rfl, rfl⟩
      | cons line before => exact ⟨(token :: line) :: before, opening, closing, after, rfl, rfl⟩

/-! Lines that stand for no matrix. -/

def MatrixFree (tokens : List Token) : Prop := ∀ line ∈ tokenLines tokens, leadingMatrix? line = none

theorem leadingMatrix?_of_shape {qualifier gap type space ident opening length closing semicolon : Token} {side : Nat}
    (rest : List Token) (uniform : qualifier.isIdent "uniform" = true) (gapped : gap.kind = .space)
    (typed : type.kind = .ident ∧ (Text.after? "vec" type.text).bind Text.readWord? = some side)
    (spaced : space.kind = .space) (named : ident.kind = .ident) (opens : opening.isPunct '[' = true)
    (counted : length.kind = .number ∧ Text.readWord? length.text = some side) (closes : closing.isPunct ']' = true)
    (ends : semicolon.isPunct ';' = true) (range : 2 ≤ side ∧ side ≤ 4) :
    leadingMatrix? (qualifier :: gap :: type :: space :: ident :: opening :: length :: closing :: semicolon :: rest) =
      some (side, ident.text) := by
  have window : (qualifier.isIdent "uniform" && gap.kind == .space && type.kind == .ident && space.kind == .space &&
      ident.kind == .ident && opening.isPunct '[' && length.kind == .number && closing.isPunct ']' &&
      semicolon.isPunct ';') = true := by
    simp only [uniform, gapped, typed, spaced, named, opens, counted, closes, ends, BEq.rfl, Bool.and_self]
  rw [leadingMatrix?, if_pos window, typed.2, counted.2]
  exact if_pos ⟨rfl, range⟩

/-- What collapsing does to a line that stands for a matrix. -/
theorem collapseLine_of_matrix {line : List Token} {side : Nat} {name : Text}
    (found : leadingMatrix? line = some (side, name)) :
    ∃ qualifier gap type space ident opening length closing semicolon rest,
      line = qualifier :: gap :: type :: space :: ident :: opening :: length :: closing :: semicolon :: rest ∧
      collapseLine line =
        qualifier :: gap :: ⟨.ident, "mat" ++ Text.decimal side⟩ :: space :: ident :: semicolon :: rest ∧
      type.kind = .ident ∧ ident.kind = .ident ∧ semicolon.isPunct ';' = true ∧ 2 ≤ side ∧ side ≤ 4 := by
  obtain ⟨qualifier, gap, type, space, ident, opening, length, closing, semicolon, rest, rfl, fits⟩ :=
    leadingMatrix?_shape found
  obtain ⟨_, _, ⟨typed, _⟩, _, ⟨named, _⟩, _, _, _, ends, range⟩ := fits
  refine ⟨qualifier, gap, type, space, ident, opening, length, closing, semicolon, rest, rfl, ?_, typed, named, ends,
    range⟩
  rw [collapseLine, found]
  rfl

theorem leadingMatrix?_collapseLine (line : List Token) : leadingMatrix? (collapseLine line) = none := by
  cases found : leadingMatrix? line with
  | none => rw [collapseLine, found, found]
  | some matrix =>
    obtain ⟨side, name⟩ := matrix
    obtain ⟨_, _, _, _, _, _, _, _, _, rest, _, collapsed, _⟩ := collapseLine_of_matrix found
    rw [collapsed]
    cases again : leadingMatrix? _ with
    | none => rfl
    | some matrix =>
      obtain ⟨_, _, type, _, _, _, _, _, _, _, shape, fits⟩ := leadingMatrix?_shape again
      obtain ⟨_, _, ⟨_, read⟩, _⟩ := fits
      cases shape
      have matrixType : Text.after? "vec" ("mat".toList ++ Text.decimal side) = none := by
        simp [Text.after?, Text.startsWith]
      rw [matrixType] at read
      cases read

theorem eight_le_of_leadingMatrix {tokens : List Token} {matrix : Nat × Text}
    (found : leadingMatrix? tokens = some matrix) {index : Nat} {token : Token} (held : tokens[index]? = some token)
    (ends : token.isPunct ';' = true) : 8 ≤ index := by
  obtain ⟨side, name⟩ := matrix
  obtain ⟨_, _, _, _, _, _, _, _, _, _, rfl, fits⟩ := leadingMatrix?_shape found
  simp only [Token.isIdent, Token.isPunct, Bool.and_eq_true, beq_iff_eq] at fits ends
  apply Nat.le_of_not_lt
  intro early
  rcases index with _ | _ | _ | _ | _ | _ | _ | _ | index
  case succ => omega
  all_goals
    cases held
    simp_all

theorem Token.rename_eq_self {names : Table Text} {token : Token}
    (kept : ∀ key, names.get? key ≠ some (token.rename names).text) : token.rename names = token := by
  obtain ⟨kind, text⟩ := token
  by_cases word : kind = .ident
  · subst word
    rw [Token.rename_ident] at kept ⊢
    cases held : names.get? text with
    | none => rfl
    | some name =>
      rw [held] at kept
      exact absurd held (kept text)
  · exact Token.rename_of_ne_ident names word

theorem leadingMatrix?_rename {names : Table Text}
    (given : ∀ key name, names.get? key = some name → name ≠ "uniform" ∧ Text.startsWith "vec" name = false)
    (line : List Token) (free : leadingMatrix? line = none) :
    leadingMatrix? (line.map (Token.rename names)) = none := by
  match line with
  | [] | [_] | [_, _] | [_, _, _] | [_, _, _, _] | [_, _, _, _, _] | [_, _, _, _, _, _] | [_, _, _, _, _, _, _]
  | [_, _, _, _, _, _, _, _] => rfl
  | qualifier :: gap :: type :: space :: ident :: opening :: length :: closing :: semicolon :: rest =>
    cases found : leadingMatrix? (List.map _ _) with
    | none => rfl
    | some matrix =>
      obtain ⟨side, name⟩ := matrix
      obtain ⟨_, _, _, _, _, _, _, _, _, _, shape, uniform, gapped, ⟨typed, width⟩, spaced, ⟨named, _⟩, opens,
        ⟨counted, count⟩, closes, ends, range⟩ := leadingMatrix?_shape found
      simp only [List.map_cons, List.cons.injEq] at shape
      obtain ⟨rfl, rfl, rfl, rfl, rfl, rfl, rfl, rfl, rfl, rfl⟩ := shape
      -- The word that opens the declaration and the vector type are not among the given names.
      have word : qualifier.rename names = qualifier := by
        apply Token.rename_eq_self
        intro key held
        rw [(Token.isIdent_iff _ _).mp uniform] at held
        exact (given key _ held).1 rfl
      have vector : type.rename names = type := by
        apply Token.rename_eq_self
        intro key held
        have refused := (given key _ held).2
        rw [Text.after?, refused] at width
        cases width
      have others : ∀ {token : Token}, (token.rename names).kind ≠ .ident → token.rename names = token := by
        intro token other
        rw [Token.rename_kind] at other
        exact Token.rename_of_ne_ident names other
      have punct : ∀ {token : Token} {c : Char},
          (token.rename names).isPunct c = true → token.rename names = token := by
        intro token c marked
        simp only [Token.isPunct, Bool.and_eq_true, beq_iff_eq] at marked
        exact others (by simp [marked])
      have numeral : length.rename names = length := others (by simp [counted])
      rw [word] at uniform
      rw [vector] at typed width
      rw [others (by simp [gapped])] at gapped
      rw [others (by simp [spaced])] at spaced
      rw [Token.rename_kind] at named
      rw [punct opens] at opens
      rw [numeral] at counted count
      rw [punct closes] at closes
      rw [punct ends] at ends
      rw [leadingMatrix?_of_shape rest uniform gapped ⟨typed, width⟩ spaced named opens ⟨counted, count⟩ closes ends
        range] at free
      cases free

theorem leadingMatrix?_concat (line : List Token) {ending : Token} (closed : ending.kind = .newline) :
    leadingMatrix? (line ++ [ending]) = leadingMatrix? line :=
  readsKinds_leadingMatrix.concat (by decide) line closed

theorem collapseLine_concat (line : List Token) {ending : Token} (closed : ending.kind = .newline) :
    collapseLine (line ++ [ending]) = collapseLine line ++ [ending] := by
  have read := leadingMatrix?_concat line closed
  cases found : leadingMatrix? line with
  | none => simp only [collapseLine, read, found]
  | some matrix =>
    obtain ⟨side, name⟩ := matrix
    obtain ⟨_, _, _, _, _, _, _, _, _, rest, rfl, _⟩ := leadingMatrix?_shape found
    simp only [collapseLine, read, found]
    rfl

theorem mem_collapseLine {line : List Token} {token : Token} (member : token ∈ collapseLine line) :
    token ∈ line ∨ token.kind = .ident := by
  cases found : leadingMatrix? line with
  | none =>
    rw [collapseLine, found] at member
    exact .inl member
  | some matrix =>
    obtain ⟨side, name⟩ := matrix
    obtain ⟨_, _, _, _, _, _, _, _, _, rest, rfl, collapsed, _⟩ := collapseLine_of_matrix found
    rw [collapsed] at member
    simp only [List.mem_cons] at member ⊢
    rcases member with same | same | rfl | same | same | same | later
    · exact .inl (.inl same)
    · exact .inl (.inr (.inl same))
    · exact .inr rfl
    all_goals simp_all

theorem areLines_collapseLine {lines : List (List Token)} (areLines : AreLines lines) :
    AreLines (lines.map collapseLine) := by
  have inner : ∀ line : List Token, (∀ token ∈ line, token.kind ≠ .newline) →
      ∀ token ∈ collapseLine line, token.kind ≠ .newline := by
    intro line opened token member
    rcases mem_collapseLine member with kept | word
    · exact opened token kept
    · rw [word]
      decide
  induction areLines with
  | nil => exact .nil
  | @last line filled opened =>
    refine .last ?_ (inner line opened)
    intro empty
    cases found : leadingMatrix? line with
    | none =>
      rw [collapseLine, found] at empty
      exact filled empty
    | some matrix =>
      obtain ⟨_, _, _, _, _, _, _, _, _, _, _, collapsed, _⟩ := collapseLine_of_matrix found
      rw [collapsed] at empty
      cases empty
  | cons line opened closed later ih =>
    rw [List.map_cons, collapseLine_concat line closed]
    exact .cons (collapseLine line) (inner line opened) closed ih

/-- Collapsing changes lines and not where they end. -/
theorem tokenLines_collapse (tokens : List Token) :
    tokenLines (Body.collapse ⟨tokens⟩).tokens = (tokenLines tokens).map collapseLine := by
  rw [Body.collapse_eq_lines, List.flatMap_def]
  exact tokenLines_flatten (areLines_collapseLine (areLines_tokenLines tokens))

theorem matrixFree_collapse (tokens : List Token) : MatrixFree (Body.collapse ⟨tokens⟩).tokens := by
  intro line member
  rw [tokenLines_collapse] at member
  obtain ⟨source, _, rfl⟩ := List.mem_map.mp member
  exact leadingMatrix?_collapseLine source

theorem Body.collapsedNames_eq_lines (body : Body) :
    body.collapsedNames = ((tokenLines body.tokens).filterMap leadingMatrix?).map Prod.snd := by
  have read := readsKinds_leadingMatrix.filterMap_offsets (by decide) [] (areLines_tokenLines body.tokens)
  rw [flatten_tokenLines] at read
  rw [← read, Body.collapsedNames, Body.matrixSites, Body.lineStarts_eq_offsets, List.map_filterMap,
    List.map_filterMap]
  congr 1
  funext start
  rw [Body.matrixSiteAt?_eq, Option.map_map]
  rfl

namespace MatrixFree

variable {tokens : List Token}

theorem collapsedNames_eq_nil (free : MatrixFree tokens) : Body.collapsedNames ⟨tokens⟩ = [] := by
  rw [Body.collapsedNames_eq_lines, List.filterMap_eq_nil_iff.mpr free, List.map_nil]

theorem collapse_eq_self (free : MatrixFree tokens) : Body.collapse ⟨tokens⟩ = ⟨tokens⟩ := by
  have kept : ∀ line ∈ tokenLines tokens, collapseLine line = line := by
    intro line member
    rw [collapseLine, free line member]
  have same : (Body.collapse ⟨tokens⟩).tokens = tokens := by
    rw [Body.collapse_eq_lines, List.flatMap_def, List.map_congr_left kept, List.map_id', flatten_tokenLines]
  exact congrArg Body.mk same

theorem rename (free : MatrixFree tokens) {names : Table Text}
    (given : ∀ key name, names.get? key = some name → name ≠ "uniform" ∧ Text.startsWith "vec" name = false) :
    MatrixFree (tokens.map (Token.rename names)) := by
  intro line member
  rw [tokenLines_map (Token.rename_kind names)] at member
  obtain ⟨source, among, rfl⟩ := List.mem_map.mp member
  exact leadingMatrix?_rename given source (free source among)

theorem insert {front back inserted : List Token} {mark : Token} (free : MatrixFree (front ++ mark :: back))
    (ends : mark.isPunct ';' = true) (inner : ∀ token ∈ inserted, token.kind ≠ .newline) :
    MatrixFree (front ++ mark :: (inserted ++ back)) := by
  have marked : mark.kind ≠ .newline := by
    simp only [Token.isPunct, Bool.and_eq_true, beq_iff_eq] at ends
    simp [ends]
  obtain ⟨before, opening, closing, after, plain, longer⟩ := tokenLines_insert front back marked inner
  unfold MatrixFree at free ⊢
  rw [plain, List.forall_mem_append, List.forall_mem_cons] at free
  rw [longer, List.forall_mem_append, List.forall_mem_cons]
  obtain ⟨earlier, unmarked, later⟩ := free
  refine ⟨earlier, ?_, later⟩
  cases found : leadingMatrix? (opening ++ mark :: (inserted ++ closing)) with
  | none => rfl
  | some matrix =>
    have long : 8 ≤ opening.length := eight_le_of_leadingMatrix found (by simp) ends
    have window : ∀ rest, leadingMatrix? (opening ++ mark :: rest) = leadingMatrix? (opening ++ [mark]) := by
      intro rest
      have bound : matrixKinds.length ≤ (opening ++ [mark]).length := by
        simp only [List.length_append, matrixKinds, declarationKinds, List.length_cons, List.length_nil]
        omega
      rw [← List.singleton_append, ← List.append_assoc, readsKinds_leadingMatrix.local_take,
        List.take_append_of_le_length bound, ← readsKinds_leadingMatrix.local_take]
    rw [window] at found unmarked
    rw [unmarked] at found
    cases found

end MatrixFree

end ShaderPair
