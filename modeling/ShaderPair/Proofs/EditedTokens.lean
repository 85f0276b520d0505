import ShaderPair.Proofs.Canonical
import ShaderPair.Proofs.CollapsedLines

/-! Edits of canonical tokens. Renaming to identifiers, collapsing matrices and putting tokens in after
punctuation leave no two neighbours that would be read as one. -/

namespace ShaderPair

namespace Canonical

/-- Renaming keeps tokens canonical exactly when the names it puts in are identifiers. -/
theorem rename_iff {tokens : List Token} (canonical : Canonical tokens) (names : Table Text) :
    Canonical (tokens.map (Token.rename names)) ↔
      ∀ token ∈ tokens, token.kind = .ident → ∀ name, names.get? token.text = some name →
        Text.isIdentifier name = true := by
  constructor
  · intro renamed token member word name held
    obtain ⟨kind, text⟩ := token
    cases word
    have put : (⟨.ident, name⟩ : Token) ∈ tokens.map (Token.rename names) := by
      apply List.mem_map.mpr
      refine ⟨_, member, ?_⟩
      rw [Token.rename_ident, held, Option.getD_some]
    exact (Token.spelled_iff_of_ident rfl).mp (renamed.spelled _ put)
  · intro valid
    apply canonical.map_idents
    · intro token _ other
      exact Token.rename_of_ne_ident names other
    · intro token member word
      refine ⟨(Token.rename_kind names token).trans word, ?_⟩
      have spelled := (Token.spelled_iff_of_ident word).mp (canonical.spelled token member)
      have given := valid token member word
      obtain ⟨kind, text⟩ := token
      cases word
      rw [Token.rename_ident]
      cases held : names.get? text with
      | none => exact spelled
      | some name => exact given name held

theorem rename {tokens : List Token} (canonical : Canonical tokens) {names : Table Text}
    (valid : ∀ key name, names.get? key = some name → Text.isIdentifier name = true) :
    Canonical (tokens.map (Token.rename names)) :=
  (canonical.rename_iff names).mpr fun token _ _ => valid token.text

theorem replace {front back : List Token} {old : Token} (canonical : Canonical (front ++ old :: back))
    (word : old.kind = .ident) {name : Text} (valid : Text.isIdentifier name = true) :
    Canonical (front ++ ⟨.ident, name⟩ :: back) := by
  obtain ⟨before, after, between⟩ := canonical_append.mp canonical
  obtain ⟨spelled, stops, later⟩ := canonical_cons.mp after
  rw [word] at stops
  refine canonical_append.mpr ⟨before, .cons ((Token.spelled_iff_of_ident rfl).mpr valid) stops later, ?_⟩
  intro last ends c starts
  rw [render_cons] at starts
  obtain ⟨first, run, text, begins, _⟩ := spelled
  have stopped := between last ends first (by simp [render_cons, text])
  rw [continues_identStart _ (isIdentStart_of_ofFirst (begins.trans word))] at stopped
  rw [continues_identStart _ (isIdentStart_of_head valid starts), stopped]

/-- Tokens can go in after a token that nothing lengthens, if they end in such a token. -/
theorem insert {front back inserted : List Token} {mark last : Token} (canonical : Canonical (front ++ mark :: back))
    (marked : mark.kind = .punct) (added : Canonical inserted) (ends : inserted.getLast? = some last)
    (closed : last.kind = .punct) : Canonical (front ++ mark :: (inserted ++ back)) := by
  rw [← List.singleton_append, ← List.append_assoc] at canonical ⊢
  obtain ⟨before, after, _⟩ := canonical_append.mp canonical
  refine canonical_append.mpr ⟨before, canonical_append.mpr ⟨added, after, ?_⟩, ?_⟩
  · intro token final c _
    rw [ends] at final
    cases final
    rw [closed]
    rfl
  · intro token final c _
    rw [List.getLast?_concat] at final
    cases final
    rw [marked]
    rfl

theorem collapseLine {line : List Token} (canonical : Canonical line) : Canonical (collapseLine line) := by
  cases found : leadingMatrix? line with
  | none =>
    rw [ShaderPair.collapseLine, found]
    exact canonical
  | some matrix =>
    obtain ⟨side, name⟩ := matrix
    obtain ⟨qualifier, gap, type, space, ident, opening, length, closing, semicolon, rest, rfl, collapsed, typed, named,
      ends, range⟩ := collapseLine_of_matrix found
    have valid : Text.isIdentifier ("mat" ++ Text.decimal side) = true := by
      obtain rfl | rfl | rfl : side = 2 ∨ side = 3 ∨ side = 4 := by omega
      all_goals decide
    have retyped : Canonical ([qualifier, gap] ++ ⟨.ident, "mat" ++ Text.decimal side⟩ ::
        space :: ident :: opening :: length :: closing :: semicolon :: rest) := replace canonical typed valid
    obtain ⟨front, back, _⟩ := canonical_append.mp (show Canonical
      ([qualifier, gap, ⟨.ident, "mat" ++ Text.decimal side⟩, space, ident] ++
        ([opening, length, closing] ++ semicolon :: rest)) from retyped)
    obtain ⟨_, statementEnd, _⟩ := canonical_append.mp back
    rw [collapsed]
    -- With the subscript gone the name meets the semicolon, which does not lengthen it.
    refine canonical_append.mpr ⟨front, statementEnd, ?_⟩
    rintro last ⟨⟩ c starts
    simp only [Token.isPunct, Bool.and_eq_true, beq_iff_eq] at ends
    rw [render_cons, ends.2] at starts
    cases starts
    change ident.kind.continues ';' = false
    rw [named]
    decide

theorem collapse {tokens : List Token} (canonical : Canonical tokens) :
    Canonical (Body.collapse ⟨tokens⟩).tokens := by
  rw [Body.collapse_eq_lines]
  rw [← flatten_tokenLines tokens] at canonical
  have areLines := areLines_tokenLines tokens
  generalize tokenLines tokens = lines at areLines canonical
  induction areLines with
  | nil => exact .nil
  | last filled inner =>
    rw [List.flatten_singleton] at canonical
    rw [List.flatMap_singleton]
    exact canonical.collapseLine
  | @cons line ending lines inner closed later ih =>
    rw [List.flatten_cons] at canonical
    obtain ⟨first, rest, _⟩ := canonical_append.mp canonical
    have collapsed := first.collapseLine
    rw [collapseLine_concat line closed] at collapsed
    rw [List.flatMap_cons, collapseLine_concat line closed]
    refine canonical_append.mpr ⟨collapsed, ih rest, ?_⟩
    intro last ends c _
    rw [List.getLast?_concat] at ends
    cases ends
    rw [closed]
    rfl

end Canonical

end ShaderPair
