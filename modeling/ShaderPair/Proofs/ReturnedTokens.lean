import Mathlib.Data.List.Forall2
import ShaderPair.Proofs.BuiltinInputs
import ShaderPair.Proofs.Canonical
import ShaderPair.Proofs.ClipPosition
import ShaderPair.Proofs.LineEnds
import ShaderPair.Proofs.TokenLines

/-! Restoration with both kinds of line ends. A carriage return before a line feed is a token of its
own or the end of the space before the line. Every step of the restoration keeps two token lists
related in this way, and no step can tell them apart. -/

namespace ShaderPair

open Text

/-- The second list has a carriage return before every line end of the first, and no other. -/
inductive Returned : List Token → List Token → Prop where
  | nil : Returned [] []
  | keep {token : Token} {left right : List Token} (inner : token.kind ≠ .newline) (clean : '\r' ∉ token.text)
      (later : Returned left right) : Returned (token :: left) (token :: right)
  | opened {ending : Token} {left right : List Token} (closed : ending.kind = .newline)
      (clean : '\r' ∉ ending.text) (later : Returned left right) :
      Returned (ending :: left) (⟨.space, ['\r']⟩ :: ending :: right)
  | joined {gap ending : Token} {left right : List Token} (blank : gap.kind = .space)
      (spaced : '\r' ∉ gap.text) (closed : ending.kind = .newline) (clean : '\r' ∉ ending.text)
      (later : Returned left right) :
      Returned (gap :: ending :: left) (⟨.space, gap.text ++ ['\r']⟩ :: ending :: right)

theorem continues_return (kind : TokenKind) : kind.continues '\r' = (kind == .space) := by
  cases kind <;> decide

theorem continues_feed (kind : TokenKind) : kind.continues '\n' = false := Lone.lineFeed.apart kind

theorem tokenize_feed (rest : Text) : tokenize ('\n' :: rest) = ⟨.newline, ['\n']⟩ :: tokenize rest :=
  tokenize_spelled .newline '\n' [] rest (by decide) (by simp) (by simp [TokenKind.continues])

theorem tokenize_return_feed (rest : Text) :
    tokenize ('\r' :: '\n' :: rest) = ⟨.space, ['\r']⟩ :: ⟨.newline, ['\n']⟩ :: tokenize rest := by
  rw [← tokenize_feed]
  exact tokenize_spelled .space '\r' [] ('\n' :: rest) (by decide) (by simp) (by simp [continues_feed])

theorem mem_of_mem_tokenize {text : Text} {token : Token} {c : Char} (member : token ∈ tokenize text)
    (inside : c ∈ token.text) : c ∈ text := by
  rw [← render_tokenize text]
  exact List.mem_flatMap.mpr ⟨token, member, inside⟩

theorem Token.Spelled.eq_newline {token : Token} (spelled : token.Spelled) (closed : token.kind = .newline) :
    token = ⟨.newline, ['\n']⟩ := by
  obtain ⟨first, run, text, begins, lengthens⟩ := spelled
  have empty : run = [] := by
    cases run with
    | nil => rfl
    | cons c later => simpa [closed, TokenKind.continues] using lengthens c (by simp)
  have feed : first = '\n' := by
    rw [closed] at begins
    unfold TokenKind.ofFirst at begins
    split at begins
    · next same => simpa using same
    · repeat' split at begins
      all_goals cases begins
  rw [← closed, ← feed, ← empty, ← text]

theorem Token.Spelled.kind_of_feed {token : Token} (spelled : token.Spelled) {after : Text}
    (starts : (token.text ++ after).head? = some '\n') : token.kind = .newline := by
  obtain ⟨first, run, text, begins, _⟩ := spelled
  rw [text] at starts
  cases starts
  exact begins.symm

theorem Token.Spelled.no_feed {token : Token} (spelled : token.Spelled) (inner : token.kind ≠ .newline) :
    '\n' ∉ token.text := by
  intro inside
  rw [spelled.eq_of_mem inside .lineFeed] at inner
  exact inner rfl

theorem Returned.of_opened {ending gap : Token} {left right : List Token} (closed : ending.kind = .newline)
    (related : Returned (ending :: left) (gap :: ending :: right)) : Returned left right := by
  cases related with
  | keep inner clean later => exact absurd closed inner
  | opened _ clean later => exact later
  | joined blank spaced _ clean later => exact absurd (closed.symm.trans blank) (by decide)

theorem head?_crlf {text : Text} {c : Char} (starts : (crlf text).head? = some c) :
    text.head? = some c ∨ (c = '\r' ∧ text.head? = some '\n') := by
  cases text with
  | nil => cases starts
  | cons first rest =>
    rw [crlf_cons] at starts
    split at starts
    · next feed =>
      cases starts
      exact .inr ⟨rfl, congrArg some feed⟩
    · exact .inl starts

theorem crlf_render_newline (rest : List Token) :
    crlf (render (⟨.newline, ['\n']⟩ :: rest)) = '\r' :: '\n' :: crlf (render rest) := by
  rw [render_cons, crlf_append]
  rfl

/-- A carriage return lengthens the space before it. -/
theorem tokenize_space_return {gap : Token} (spelled : gap.Spelled) (blank : gap.kind = .space) (rest : Text) :
    tokenize (gap.text ++ '\r' :: '\n' :: rest) =
      ⟨.space, gap.text ++ ['\r']⟩ :: ⟨.newline, ['\n']⟩ :: tokenize rest := by
  obtain ⟨first, run, text, begins, lengthens⟩ := spelled
  have spacing : ∀ c ∈ run ++ ['\r'], TokenKind.space.continues c = true := by
    intro c member
    rcases List.mem_append.mp member with inside | last
    · exact blank ▸ lengthens c inside
    · rw [List.mem_singleton.mp last]
      decide
  have joined := tokenize_spelled .space first (run ++ ['\r']) ('\n' :: rest) (begins.trans blank) spacing
    (by simp [continues_feed])
  rw [tokenize_feed] at joined
  simpa [text] using joined

theorem returned_of_canonical {tokens : List Token} (canonical : Canonical tokens) (clean : '\r' ∉ render tokens) :
    Returned tokens (tokenize (crlf (render tokens))) := by
  induction canonical with
  | nil => simpa [render, crlf, tokenize] using Returned.nil
  | @cons token rest spelled stops later ih =>
    rw [render_cons, List.mem_append, not_or] at clean
    have related := ih clean.2
    by_cases closed : token.kind = .newline
    · have ending := spelled.eq_newline closed
      subst ending
      rw [crlf_render_newline, tokenize_return_feed]
      exact .opened rfl clean.1 related
    · rw [render_cons, crlf_append, crlf_eq_self (spelled.no_feed closed)]
      by_cases ends : token.kind = .space ∧ (render rest).head? = some '\n'
      · obtain ⟨blank, feed⟩ := ends
        cases later with
        | nil => cases feed
        | @cons ending rest ended _ after =>
          rw [render_cons] at feed
          have lineEnd := ended.eq_newline (ended.kind_of_feed feed)
          subst lineEnd
          rw [crlf_render_newline, tokenize_return_feed] at related
          rw [crlf_render_newline, tokenize_space_return spelled blank]
          exact .joined blank clean.1 rfl (by simp) (related.of_opened rfl)
      -- Otherwise the token stops where it stopped before.
      · have stop : ∀ c ∈ (crlf (render rest)).head?, token.kind.continues c = false := by
          intro c starts
          rcases head?_crlf starts with same | ⟨rfl, feed⟩
          · exact stops c same
          · rw [continues_return, beq_eq_false_iff_ne]
            exact fun blank => ends ⟨blank, feed⟩
        obtain ⟨first, run, text, begins, lengthens⟩ := spelled
        rw [text, List.cons_append, tokenize_spelled token.kind first run _ begins lengthens stop, ← text]
        exact .keep closed clean.1 related

theorem returned_tokenize {text : Text} (clean : '\r' ∉ text) :
    Returned (tokenize text) (tokenize (crlf text)) := by
  have related := returned_of_canonical (canonical_tokenize text)
  rw [render_tokenize] at related
  exact related clean

/-! What the two lists have in common. -/

namespace Returned

variable {left right : List Token}

theorem clean (related : Returned left right) : ∀ token ∈ left, '\r' ∉ token.text := by
  induction related with
  | nil => simp
  | keep inner clean later ih => simpa [clean] using ih
  | opened closed clean later ih => simpa [clean] using ih
  | joined blank spaced closed clean later ih => simpa [spaced, clean] using ih

theorem append {leftRest rightRest : List Token} (related : Returned left right) (rest : Returned leftRest rightRest) :
    Returned (left ++ leftRest) (right ++ rightRest) := by
  induction related with
  | nil => exact rest
  | keep inner clean later ih => exact .keep inner clean ih
  | opened closed clean later ih => exact .opened closed clean ih
  | joined blank spaced closed clean later ih => exact .joined blank spaced closed clean ih

theorem within_line {tokens : List Token}
    (inner : ∀ token ∈ tokens, token.kind ≠ .newline ∧ '\r' ∉ token.text) : Returned tokens tokens := by
  induction tokens with
  | nil => exact .nil
  | cons token rest ih =>
    obtain ⟨kept, clean⟩ := inner token List.mem_cons_self
    exact .keep kept clean (ih fun other member => inner other (List.mem_cons_of_mem _ member))

theorem dropReturns_render (related : Returned left right) : dropReturns (render right) = render left := by
  have single : dropReturns ['\r'] = [] := by decide
  induction related with
  | nil => rfl
  | keep inner clean later ih =>
    rw [render_cons, render_cons, dropReturns_append, ih, dropReturns_eq_self clean]
  | opened closed clean later ih =>
    rw [render_cons, render_cons, render_cons, dropReturns_append, dropReturns_append, ih,
      dropReturns_eq_self clean, single, List.nil_append]
  | joined blank spaced closed clean later ih =>
    simp only [render_cons, dropReturns_append, ih, dropReturns_eq_self clean, dropReturns_eq_self spaced, single,
      List.append_nil]

theorem filter_eq (related : Returned left right) (test : Token → Bool)
    (refuses : ∀ token : Token, token.kind = .space → test token = false) :
    right.filter test = left.filter test := by
  induction related with
  | nil => rfl
  | keep inner clean later ih => rw [List.filter_cons, List.filter_cons, ih]
  | opened closed clean later ih =>
    rw [List.filter_cons_of_neg (by simp [refuses]), List.filter_cons, List.filter_cons, ih]
  | @joined gap ending _ _ blank spaced closed clean later ih =>
    rw [List.filter_cons_of_neg (by simp [refuses]), List.filter_cons,
      List.filter_cons_of_neg (by simp [refuses, blank]), List.filter_cons, ih]

theorem rename (related : Returned left right) {names : Table Text}
    (clean : ∀ key name, names.get? key = some name → '\r' ∉ name) :
    Returned (left.map (Token.rename names)) (right.map (Token.rename names)) := by
  have other : ∀ {token : Token}, token.kind ≠ .ident → token.rename names = token :=
    fun inner => Token.rename_of_ne_ident names inner
  induction related with
  | nil => exact .nil
  | @keep token left right inner kept later ih =>
    refine .keep (by rwa [Token.rename_kind]) ?_ ih
    unfold Token.rename
    split
    · next name _ held => exact clean _ name held
    · exact kept
  | opened closed kept later ih =>
    rw [List.map_cons, List.map_cons, List.map_cons, other (by simp [closed]), other (by simp)]
    exact .opened closed kept ih
  | joined blank spaced closed kept later ih =>
    rw [List.map_cons, List.map_cons, List.map_cons, List.map_cons, other (by simp [blank]), other (by simp [closed]),
      other (by simp)]
    exact .joined blank spaced closed kept ih

/-- Readers of kinds that neither contain a line end nor stop at a space see the same. -/
theorem window (related : Returned left right) (kinds : List TokenKind) (inner : TokenKind.newline ∉ kinds)
    (stops : kinds.getLast? ≠ some .space) :
    (left.take kinds.length = right.take kinds.length ∧
        Returned (left.drop kinds.length) (right.drop kinds.length)) ∨
      ((left.take kinds.length).map Token.kind ≠ kinds ∧ (right.take kinds.length).map Token.kind ≠ kinds) := by
  induction related generalizing kinds with
  | nil => exact .inl ⟨rfl, by simpa using Returned.nil⟩
  | keep kept clean later ih =>
    cases kinds with
    | nil => exact .inl ⟨rfl, .keep kept clean later⟩
    | cons kind kinds =>
      simp only [List.mem_cons, not_or] at inner
      have last : kinds.getLast? ≠ some .space := by
        cases kinds with
        | nil => simp
        | cons next rest => simpa using stops
      rcases ih kinds inner.2 last with ⟨same, rest⟩ | ⟨first, second⟩
      · exact .inl ⟨by simp [same], by simpa using rest⟩
      · exact .inr ⟨fun same => first (List.cons.inj same).2, fun same => second (List.cons.inj same).2⟩
  | opened closed clean later ih =>
    match kinds with
    | [] => exact .inl ⟨rfl, .opened closed clean later⟩
    | [kind] =>
      have last : TokenKind.space ≠ kind := by simpa [eq_comm] using stops
      have apart : TokenKind.newline ≠ kind := by simpa using inner
      exact .inr ⟨by simp [closed, apart], by simp [last]⟩
    | kind :: next :: rest =>
      simp only [List.mem_cons, not_or] at inner
      exact .inr ⟨by simp [closed, inner.1], by simp [closed, inner.2.1]⟩
  | joined blank spaced closed clean later ih =>
    match kinds with
    | [] => exact .inl ⟨rfl, .joined blank spaced closed clean later⟩
    | [kind] =>
      have last : TokenKind.space ≠ kind := by simpa [eq_comm] using stops
      exact .inr ⟨by simp [blank, last], by simp [last]⟩
    | kind :: next :: rest =>
      simp only [List.mem_cons, not_or] at inner
      exact .inr ⟨by simp [closed, inner.2.1], by simp [closed, inner.2.1]⟩

theorem cut {front back : List Token} {hit : Token} (related : Returned (front ++ hit :: back) right)
    (solid : hit.kind ≠ .space ∧ hit.kind ≠ .newline) :
    ∃ early late, right = early ++ hit :: late ∧ Returned front early ∧ Returned back late := by
  generalize shape : front ++ hit :: back = left at related
  induction related generalizing front with
  | nil => simp at shape
  | @keep token left right inner clean later ih =>
    cases front with
    | nil =>
      cases shape
      exact ⟨[], right, rfl, .nil, later⟩
    | cons first front =>
      obtain ⟨rfl, tail⟩ := List.cons.inj shape
      obtain ⟨early, late, rfl, before, after⟩ := ih tail
      exact ⟨first :: early, late, rfl, .keep inner clean before, after⟩
  | opened closed clean later ih =>
    cases front with
    | nil =>
      cases shape
      exact absurd closed solid.2
    | cons first front =>
      obtain ⟨rfl, tail⟩ := List.cons.inj shape
      obtain ⟨early, late, rfl, before, after⟩ := ih tail
      exact ⟨_ :: first :: early, late, rfl, .opened closed clean before, after⟩
  | joined blank spaced closed clean later ih =>
    match front with
    | [] =>
      cases shape
      exact absurd blank solid.1
    | [first] =>
      cases shape
      exact absurd closed solid.2
    | first :: second :: front =>
      obtain ⟨rfl, tail⟩ := List.cons.inj shape
      obtain ⟨rfl, rest⟩ := List.cons.inj tail
      obtain ⟨early, late, rfl, before, after⟩ := ih rest
      exact ⟨_ :: second :: early, late, rfl, .joined blank spaced closed clean before, after⟩

/-! Lines, and what is read from them. -/

theorem tokenLines (related : Returned left right) :
    List.Forall₂ Returned (tokenLines left) (tokenLines right) := by
  induction related with
  | nil => exact .nil
  | @keep token left right inner clean later ih =>
    rw [ShaderPair.tokenLines, ShaderPair.tokenLines, if_neg inner, if_neg inner]
    generalize ShaderPair.tokenLines left = lines, ShaderPair.tokenLines right = returnedLines at ih
    cases ih with
    | nil => exact .cons (.keep inner clean .nil) .nil
    | cons first rest => exact .cons (.keep inner clean first) rest
  | opened closed clean later ih =>
    simpa [ShaderPair.tokenLines, closed] using ⟨.opened closed clean .nil, ih⟩
  | joined blank spaced closed clean later ih =>
    simpa [ShaderPair.tokenLines, closed, blank] using ⟨.joined blank spaced closed clean .nil, ih⟩

theorem reads {α : Type} {kinds : List TokenKind} {read : List Token → Option α} (related : Returned left right)
    (reads : ReadsKinds kinds read) (inner : TokenKind.newline ∉ kinds) (stops : kinds.getLast? ≠ some .space) :
    read right = read left := by
  rcases related.window kinds inner stops with ⟨same, _⟩ | ⟨first, second⟩
  · rw [reads.local_take, reads.local_take left, same]
  · rw [reads.eq_none first, reads.eq_none second]

theorem declarations (related : Returned left right) (qualifier : Text) :
    Body.declarations ⟨right⟩ qualifier = Body.declarations ⟨left⟩ qualifier := by
  rw [Body.declarations_eq_lines, Body.declarations_eq_lines]
  have lines := related.tokenLines
  generalize ShaderPair.tokenLines left = before, ShaderPair.tokenLines right = after at lines
  induction lines with
  | nil => rfl
  | cons first rest ih =>
    rw [List.filterMap_cons, List.filterMap_cons, ih,
      first.reads (readsKinds_leadingDeclaration qualifier) (by decide) (by decide)]

theorem collapseLine (related : Returned left right) : Returned (collapseLine left) (collapseLine right) := by
  have read := related.reads readsKinds_leadingMatrix (by decide) (by decide)
  unfold ShaderPair.collapseLine
  rw [read]
  cases found : leadingMatrix? left with
  | none => exact related
  | some matrix =>
    obtain ⟨side, name⟩ := matrix
    rcases related.window matrixKinds (by decide) (by decide) with ⟨same, rest⟩ | ⟨differs, _⟩
    · obtain ⟨qualifier, gap, type, space, ident, opening, length, closing, semicolon, tail, rfl, fits⟩ :=
        leadingMatrix?_shape found
      have whole := List.take_append_drop matrixKinds.length right
      have clean := related.clean
      rw [← same] at whole
      generalize right.drop matrixKinds.length = returnedTail at whole rest
      subst whole
      have width : '\r' ∉ Text.decimal side := by
        obtain rfl | rfl | rfl : side = 2 ∨ side = 3 ∨ side = 4 := by omega
        all_goals decide
      simp only [List.forall_mem_cons] at clean
      have kinds := readsKinds_leadingMatrix.kinds_of_some _ _ found
      simp only [matrixKinds, declarationKinds, List.cons_append, List.nil_append, List.length_cons, List.length_nil,
        List.take_succ_cons, List.map_cons, List.cons.injEq] at kinds
      have kept : Returned [qualifier, gap, ⟨.ident, "mat".toList ++ Text.decimal side⟩, space, ident, semicolon]
          [qualifier, gap, ⟨.ident, "mat".toList ++ Text.decimal side⟩, space, ident, semicolon] := by
        apply within_line
        simp [kinds, clean, width]
      exact kept.append rest
    · exact absurd (readsKinds_leadingMatrix.kinds_of_some _ _ found) differs

theorem collapse (related : Returned left right) :
    Returned (Body.collapse ⟨left⟩).tokens (Body.collapse ⟨right⟩).tokens := by
  rw [Body.collapse_eq_lines, Body.collapse_eq_lines]
  have lines := related.tokenLines
  generalize ShaderPair.tokenLines left = before, ShaderPair.tokenLines right = after at lines
  induction lines with
  | nil => exact .nil
  | cons first rest ih => exact first.collapseLine.append ih

end Returned

theorem map_map_outcome {ε α β γ : Type} (outcome : Except ε α) (first : α → β) (second : β → γ) :
    (outcome.map first).map second = outcome.map fun value => second (first value) := by
  cases outcome <;> rfl

namespace Restoration

variable {left right : List Token}

theorem unmarked_returned {test : Token → Bool} (related : Returned left right)
    (refuses : ∀ token : Token, token.kind = .space → test token = false)
    (absent : ∀ token ∈ left, test token = false) : ∀ token ∈ right, test token = false := by
  have none : left.filter test = [] := List.filter_eq_nil_iff.mpr (by simpa using absent)
  have same := (related.filter_eq test refuses).trans none
  simpa using List.filter_eq_nil_iff.mp same

theorem isIdent_of_space {name : Text} (token : Token) (blank : token.kind = .space) : token.isIdent name = false := by
  simp [Token.isIdent, blank]

theorem isPunct_of_space {c : Char} (token : Token) (blank : token.kind = .space) : token.isPunct c = false := by
  simp [Token.isPunct, blank]

theorem any_isIdent_returned (related : Returned left right) (name : Text) :
    right.any (·.isIdent name) = left.any (·.isIdent name) := by
  have same := congrArg (List.any · (·.isIdent name)) (related.filter_eq (·.isIdent name) isIdent_of_space)
  simpa only [List.any_filter, Bool.and_self] using same

theorem countP_isIdent_returned (related : Returned left right) (name : Text) :
    right.countP (·.isIdent name) = left.countP (·.isIdent name) := by
  have same := related.filter_eq (·.isIdent name) isIdent_of_space
  rw [List.countP_eq_length_filter, List.countP_eq_length_filter, same]

theorem clean_join {separator : Text} {lines : List Text} (separated : '\r' ∉ separator)
    (clean : ∀ line ∈ lines, '\r' ∉ line) : '\r' ∉ join separator lines := by
  fun_induction join separator lines with
  | case1 => simp
  | case2 last => exact clean last List.mem_cons_self
  | case3 line next rest ih =>
    have later := ih fun other member => clean other (List.mem_cons_of_mem _ member)
    simp [separated, later, clean line List.mem_cons_self]

theorem finish_returned (related : Returned left right) {declarations : List Text}
    (clean : ∀ line ∈ declarations, '\r' ∉ line) :
    dropReturns (Draft.finish ⟨declarations, ⟨right⟩⟩).text = (Draft.finish ⟨declarations, ⟨left⟩⟩).text := by
  have opening : '\r' ∉ join "\n" declarations ++ "\n\n" := by
    rw [List.mem_append, not_or]
    exact ⟨clean_join (by decide) clean, by decide⟩
  simp only [Draft.finish, Restored.text, Body.text]
  rw [dropReturns_append, dropReturns_eq_self opening, related.dropReturns_render]

theorem clean_clipRecombination :
    ∀ token ∈ tokenize clipRecombination, token.kind ≠ .newline ∧ '\r' ∉ token.text := by
  have plain : '\n' ∉ clipRecombination ∧ '\r' ∉ clipRecombination := by decide +kernel
  intro token member
  constructor
  · intro closed
    have ending := ((canonical_tokenize clipRecombination).spelled token member).eq_newline closed
    exact plain.1 (mem_of_mem_tokenize member (by simp [ending]))
  · exact fun inside => plain.2 (mem_of_mem_tokenize member inside)

theorem splitClipPosition_returned (related : Returned left right) {declarations : List Text}
    (clean : ∀ line ∈ declarations, '\r' ∉ line) :
    (splitClipPosition ⟨declarations, ⟨right⟩⟩).map (fun draft => dropReturns draft.finish.text) =
      (splitClipPosition ⟨declarations, ⟨left⟩⟩).map fun draft => draft.finish.text := by
  generalize found : splitClipPosition ⟨declarations, ⟨left⟩⟩ = outcome
  have split : ClipSplit declarations left outcome := clipSplit_of_eq found
  have solid {token : Token} (clip : token.isIdent clipPosition = true) :
      token.kind ≠ .space ∧ token.kind ≠ .newline := by
    rw [(Token.isIdent_iff _ _).mp clip]
    decide
  have kept {front early : List Token} (before : Returned front early)
      (absent : ∀ token ∈ front, token.isIdent clipPosition = false) :
      ∀ token ∈ early, token.isIdent clipPosition = false := unmarked_returned before isIdent_of_space absent
  cases split with
  | unused absent =>
    rw [splitClipPosition_unused (kept related absent)]
    exact congrArg Except.ok (finish_returned related clean)
  | repeated before clip again =>
    have count := countP_isIdent_returned related clipPosition
    obtain ⟨early, late, rfl, front, back⟩ := related.cut (solid clip)
    rw [splitClipPosition_repeated (kept front before) clip ((any_isIdent_returned back _).trans again), count]
    rfl
  | endless before clip once endless =>
    obtain ⟨early, late, rfl, front, back⟩ := related.cut (solid clip)
    rw [splitClipPosition_endless (kept front before) clip (kept back once)
      (unmarked_returned back isPunct_of_space endless)]
    rfl
  | @ended _ _ _ _ semicolon before clip once between ends =>
    have mark : semicolon.kind = .punct ∧ '\r' ∉ semicolon.text := by
      rw [(Token.isPunct_iff _ _).mp ends]
      decide
    obtain ⟨early, late, rfl, front, back⟩ := related.cut (solid clip)
    have alone := kept back once
    obtain ⟨inner, last, rfl, middle, rest⟩ := back.cut (by simp [mark.1])
    rw [splitClipPosition_ended (kept front before) clip alone
      (unmarked_returned middle isPunct_of_space between) ends]
    have inserted := (Returned.within_line clean_clipRecombination).append rest
    have statement := middle.append (.keep (by simp [mark.1]) mark.2 inserted)
    have temporary : (⟨.ident, clipTemporary⟩ : Token).kind ≠ .newline ∧ '\r' ∉ clipTemporary := by decide
    have whole := front.append (.keep temporary.1 temporary.2 statement)
    have fixed : ∀ line ∈ clipDeclarations, '\r' ∉ line := by decide
    refine congrArg Except.ok (finish_returned whole ?_)
    intro line member
    rcases List.mem_append.mp member with earlier | added
    · exact clean line earlier
    · exact fixed line added

theorem finishBody_returned (related : Returned left right) :
    (finishBody ⟨right⟩).map (fun restored => dropReturns restored.text) =
      (finishBody ⟨left⟩).map Restored.text := by
  have clean : ∀ input ∈ builtinInputs, '\r' ∉ input.2 ∧ '\r' ∉ inputDeclaration input := by decide
  have renamed := related.collapse.rename fun key name held =>
    (clean (key, name) (Table.mem_of_get?_ofPairs held)).1
  have used : ∀ name, (Body.collapse ⟨right⟩).mentions name = (Body.collapse ⟨left⟩).mentions name :=
    any_isIdent_returned related.collapse
  have normal : ((Body.collapse ⟨right⟩).rename (.ofPairs builtinInputs)).mentions "gl_Normal" =
      ((Body.collapse ⟨left⟩).rename (.ofPairs builtinInputs)).mentions "gl_Normal" :=
    any_isIdent_returned renamed "gl_Normal"
  simp only [finishBody, foldl_declareInput _ _ separated_builtinInputs, used, normal]
  split
  · rfl
  · rw [map_map_outcome, map_map_outcome]
    apply splitClipPosition_returned renamed
    intro line member
    obtain ⟨input, among, rfl⟩ := List.mem_map.mp member
    exact (clean input (List.mem_filter.mp among).1).2

/-! Bodies and whole stages. -/

theorem clean_restoredAs? {symbols : SymbolMap}
    (clean : ∀ generated symbol, symbols.get? generated = some symbol → '\r' ∉ symbol.name)
    {qualifier : Qualifier} {generated name : Text} (found : restoredAs? symbols qualifier generated = some name) :
    '\r' ∉ name := by
  cases qualifier with
  | uniform =>
    obtain ⟨symbol, held, rfl⟩ := Option.map_eq_some_iff.mp found
    exact clean generated symbol held
  | input =>
    obtain ⟨symbol, _, hidden⟩ := Option.bind_eq_some_iff.mp found
    obtain ⟨placeholder, _, semantic⟩ := Option.bind_eq_some_iff.mp hidden
    obtain ⟨pair, held, rfl⟩ := Option.map_eq_some_iff.mp semantic
    have all : ∀ pair ∈ Semantic.placeholders, '\r' ∉ pair.2 := by decide
    exact all pair (List.mem_of_find?_eq_some held)

theorem restoreBody_crlf {symbols : SymbolMap} {text : Text} (clean : '\r' ∉ text)
    (named : ∀ generated symbol, symbols.get? generated = some symbol → '\r' ∉ symbol.name) :
    (restoreBody symbols (crlf text)).map (fun restored => dropReturns restored.text) =
      (restoreBody symbols text).map Restored.text := by
  have related := returned_tokenize clean
  have same : declared (.ofText (crlf text)) = declared (.ofText text) := by
    simp only [declared, Body.ofText, related.declarations]
  rw [restoreBody, restoreBody, restoreNames, same, ← restoreNames]
  cases outcome : (restoreNames symbols (.ofText text)).toExcept with
  | error cause => rfl
  | ok names =>
    obtain ⟨restorable, rfl⟩ := restoreNames_eq_ok.mp outcome
    apply finishBody_returned
    apply related.rename
    intro key name held
    obtain ⟨restored, member, same⟩ := List.mem_map.mp (Table.mem_of_get?_ofPairs held)
    obtain ⟨item, among, rfl⟩ := List.mem_map.mp member
    cases same
    obtain ⟨name, found⟩ := Option.isSome_iff_exists.mp ((restorable_iff symbols _).mp restorable item among)
    rw [found, Option.getD_some]
    exact clean_restoredAs? named found

theorem restoreStage_crlf {text : Text} (clean : '\r' ∉ text) :
    (restoreStage (crlf text)).map dropReturns = restoreStage text := by
  rw [restoreStage, restoreStage, Header.split_of_crlf clean]
  cases found : Header.split text with
  | error cause => rfl
  | ok halves =>
    obtain ⟨header, body⟩ := halves
    have whole := Header.eq_of_split found
    rw [whole, List.mem_append, List.mem_append, not_or, not_or] at clean
    obtain ⟨⟨top, _⟩, bottom⟩ := clean
    simp only [Except.map, Header.symbols_crlf top]
    cases read : Header.symbols header with
    | error cause => rfl
    | ok symbols =>
      have restored := restoreBody_crlf bottom fun generated symbol held => Header.clean_symbols top read held
      have joined : ∀ text, dropReturns (crlf header ++ "\n\n" ++ text) = header ++ "\n\n" ++ dropReturns text := by
        intro text
        rw [dropReturns_append, dropReturns_append, dropReturns_crlf top]
        rfl
      calc
        ((restoreBody symbols (crlf body)).map fun restored => crlf header ++ "\n\n" ++ restored.text).map dropReturns =
            ((restoreBody symbols (crlf body)).map fun restored => dropReturns restored.text).map
              (header ++ "\n\n" ++ ·) := by simp only [map_map_outcome, joined]
        _ = ((restoreBody symbols body).map Restored.text).map (header ++ "\n\n" ++ ·) := by rw [restored]
        _ = (restoreBody symbols body).map fun restored => header ++ "\n\n" ++ restored.text := map_map_outcome ..

def spacedStage : Text :=
  "//var float4x4 m : WORLD : _w : 0 : 1\n\nuniform vec4 _w[4]; \ngl_FragColor = _w[0];\n"

theorem restoreStage_crlf_spaced :
    restoreStage spacedStage = .ok ("//var float4x4 m : WORLD : _w : 0 : 1\n\n\n\nuniform mat4 world; \n" ++
        "gl_FragColor = world[0];\n" : Text) ∧
      (restoreStage (crlf spacedStage)).map dropReturns = restoreStage spacedStage :=
  ⟨by decide +kernel, restoreStage_crlf (by decide)⟩

end Restoration

end ShaderPair
