import ShaderPair.Token

/-! The token lists that texts have. A canonical list is made of well spelled tokens, none of which
the next character could lengthen. The tokens of a text are canonical, and a canonical list is what
its own rendering is split into, so a list of tokens can be edited and read again without loss. -/

namespace ShaderPair

namespace Text

def isIdentifier : Text → Bool
  | [] => false
  | first :: rest => isIdentStart first && rest.all isIdentRest

end Text

/-- The text begins like its kind, and the rest of it only lengthens the token. -/
def Token.Spelled (token : Token) : Prop :=
  ∃ first rest, token.text = first :: rest ∧ TokenKind.ofFirst first = token.kind ∧
    ∀ c ∈ rest, token.kind.continues c = true

/-- Each token stops where the text after it cannot lengthen it. -/
inductive Canonical : List Token → Prop where
  | nil : Canonical []
  | cons {token : Token} {rest : List Token} (spelled : token.Spelled)
      (stops : ∀ c ∈ (render rest).head?, token.kind.continues c = false)
      (later : Canonical rest) : Canonical (token :: rest)

theorem Canonical.spelled {tokens : List Token} (canonical : Canonical tokens) :
    ∀ token ∈ tokens, token.Spelled := by
  induction canonical with
  | nil => simp
  | cons spelled stops later ih => simpa [spelled] using ih

theorem tokenize_cons (first : Char) (rest : Text) :
    tokenize (first :: rest) =
      ⟨TokenKind.ofFirst first, first :: rest.takeWhile (TokenKind.ofFirst first).continues⟩ ::
        tokenize (rest.dropWhile (TokenKind.ofFirst first).continues) := by
  rw [tokenize]

/-! A run of characters, followed by one that does not belong to it. -/

section

variable {belongs : Char → Bool} {run after : Text} (inside : ∀ c ∈ run, belongs c = true)
  (stops : ∀ c ∈ after.head?, belongs c = false)

include inside stops

theorem takeWhile_run : (run ++ after).takeWhile belongs = run := by
  have taken : after.takeWhile belongs = [] := by
    cases after with
    | nil => rfl
    | cons c later => simp [stops c (by simp)]
  rw [List.takeWhile_append_of_pos inside, taken, List.append_nil]

theorem dropWhile_run : (run ++ after).dropWhile belongs = after := by
  have dropped : after.dropWhile belongs = after := by
    cases after with
    | nil => rfl
    | cons c later => simp [stops c (by simp)]
  rw [List.dropWhile_append_of_pos inside, dropped]

end

theorem tokenize_spelled (kind : TokenKind) (first : Char) (run after : Text)
    (begins : TokenKind.ofFirst first = kind) (lengthens : ∀ c ∈ run, kind.continues c = true)
    (stops : ∀ c ∈ after.head?, kind.continues c = false) :
    tokenize (first :: (run ++ after)) = ⟨kind, first :: run⟩ :: tokenize after := by
  rw [tokenize_cons, begins, takeWhile_run lengthens stops, dropWhile_run lengthens stops]

theorem canonical_tokenize (text : Text) : Canonical (tokenize text) := by
  fun_induction tokenize text with
  | case1 => exact .nil
  | case2 first rest kind ih =>
    refine .cons ⟨first, _, rfl, rfl, ?_⟩ ?_ ih
    · intro c member
      exact List.all_eq_true.mp List.all_takeWhile c member
    · intro c starts
      rw [render_tokenize] at starts
      have stop := List.head?_dropWhile_not kind.continues rest
      rw [Option.mem_def.mp starts] at stop
      simpa using stop

theorem tokenize_render {tokens : List Token} (canonical : Canonical tokens) :
    tokenize (render tokens) = tokens := by
  induction canonical with
  | nil => simp [render, tokenize]
  | @cons token rest spelled stops later ih =>
    obtain ⟨first, run, text, begins, lengthens⟩ := spelled
    rw [render_cons, text, List.cons_append, tokenize_spelled token.kind first run _ begins lengthens stops, ih,
      ← text]

/-- Changed tokens that are read back as they are give the same text only where nothing was changed. -/
theorem render_map_eq_self {text : Text} {change : Token → Token} (canonical : Canonical ((tokenize text).map change)) :
    render ((tokenize text).map change) = text ↔ ∀ token ∈ tokenize text, change token = token := by
  have fixed : (tokenize text).map change = (tokenize text).map id ↔
      ∀ token ∈ tokenize text, change token = token := List.map_inj_left
  rw [List.map_id] at fixed
  rw [← fixed]
  constructor
  · intro same
    have read := tokenize_render canonical
    rw [same] at read
    exact read.symm
  · intro same
    rw [same, render_tokenize]

/-! Renaming identifiers keeps a list canonical, since all identifiers stop the same tokens. -/

theorem code_of_isIdentStart {c : Char} (start : isIdentStart c = true) :
    65 ≤ c.toNat ∧ c.toNat ≤ 90 ∨ c.toNat = 95 ∨ 97 ≤ c.toNat ∧ c.toNat ≤ 122 := by
  delta isIdentStart Char.isAlpha Char.isUpper Char.isLower at start
  simp only [Bool.or_eq_true, Bool.and_eq_true, decide_eq_true_eq, UInt32.le_iff_toNat_le, ge_iff_le,
    beq_iff_eq] at start
  rcases start with letter | underscore
  · change (65 ≤ c.toNat ∧ c.toNat ≤ 90) ∨ (97 ≤ c.toNat ∧ c.toNat ≤ 122) at letter
    omega
  · subst underscore
    decide

theorem isBlank_of_isIdentStart {c : Char} (start : isIdentStart c = true) : Text.isBlank c = false := by
  have code := code_of_isIdentStart start
  simp only [Text.isBlank, Bool.or_eq_false_iff, Bool.and_eq_false_iff, decide_eq_false_iff_not,
    beq_eq_false_iff_ne]
  omega

theorem isBlank_of_isDigit {c : Char} (digit : c.isDigit = true) : Text.isBlank c = false := by
  have code : 48 ≤ c.toNat ∧ c.toNat ≤ 57 := Char.isDigit_iff_toNat.mp digit
  simp only [Text.isBlank, Bool.or_eq_false_iff, Bool.and_eq_false_iff, decide_eq_false_iff_not,
    beq_eq_false_iff_ne]
  omega

theorem isDigit_of_isIdentStart {c : Char} (start : isIdentStart c = true) : c.isDigit = false := by
  rw [← Bool.not_eq_true]
  intro digit
  have code : 48 ≤ c.toNat ∧ c.toNat ≤ 57 := Char.isDigit_iff_toNat.mp digit
  have letter := code_of_isIdentStart start
  omega

theorem isIdentRest_eq (c : Char) : isIdentRest c = (isIdentStart c || c.isDigit) :=
  Bool.or_right_comm c.isAlpha c.isDigit (c == '_')

theorem isIdentRest_of_isIdentStart {c : Char} (start : isIdentStart c = true) : isIdentRest c = true := by
  rw [isIdentRest_eq, start, Bool.true_or]

theorem isIdentRest_cases {c : Char} (word : isIdentRest c = true) : isIdentStart c = true ∨ c.isDigit = true := by
  rw [isIdentRest_eq] at word
  exact Bool.or_eq_true_iff.mp word

theorem isBlank_of_isIdentRest {c : Char} (word : isIdentRest c = true) : Text.isBlank c = false := by
  rcases isIdentRest_cases word with start | digit
  · exact isBlank_of_isIdentStart start
  · exact isBlank_of_isDigit digit

theorem isIdentRest_of_isBlank {c : Char} (blank : Text.isBlank c = true) : isIdentRest c = false := by
  rw [← Bool.not_eq_true]
  intro word
  rw [isBlank_of_isIdentRest word] at blank
  cases blank

theorem isIdentStart_of_ofFirst {c : Char} (begins : TokenKind.ofFirst c = .ident) : isIdentStart c = true := by
  unfold TokenKind.ofFirst at begins
  split at begins
  · cases begins
  · split at begins
    · assumption
    · repeat' split at begins
      all_goals cases begins

theorem ofFirst_of_isIdentStart {c : Char} (start : isIdentStart c = true) : TokenKind.ofFirst c = .ident := by
  have differs : c ≠ '\n' := by
    rintro rfl
    exact absurd start (by decide)
  simp [TokenKind.ofFirst, differs, start]

theorem continues_identRest (kind : TokenKind) {c : Char} (word : isIdentRest c = true) :
    kind.continues c = (kind == .ident || kind == .number) := by
  cases kind with
  | ident => exact word
  | number => simp [TokenKind.continues, word]
  | space => simp [TokenKind.continues, isSpacing, isBlank_of_isIdentRest word]
  | newline => rfl
  | punct => rfl

theorem continues_identStart (kind : TokenKind) {c : Char} (start : isIdentStart c = true) :
    kind.continues c = (kind == .ident || kind == .number) :=
  continues_identRest kind (isIdentRest_of_isIdentStart start)

theorem Token.spelled_iff_of_ident {token : Token} (word : token.kind = .ident) :
    token.Spelled ↔ Text.isIdentifier token.text = true := by
  obtain ⟨kind, name⟩ := token
  cases word
  constructor
  · rintro ⟨first, rest, rfl, begins, lengthens⟩
    simp only [Text.isIdentifier, Bool.and_eq_true, List.all_eq_true]
    exact ⟨isIdentStart_of_ofFirst begins, lengthens⟩
  · intro valid
    cases name with
    | nil => cases valid
    | cons first rest =>
      simp only [Text.isIdentifier, Bool.and_eq_true, List.all_eq_true] at valid
      exact ⟨first, rest, rfl, ofFirst_of_isIdentStart valid.1, valid.2⟩

theorem isIdentStart_of_head {name : Text} (valid : Text.isIdentifier name = true) {c : Char}
    {after : Text} (starts : (name ++ after).head? = some c) : isIdentStart c = true := by
  cases name with
  | nil => cases valid
  | cons first rest =>
    cases starts
    simp only [Text.isIdentifier, Bool.and_eq_true] at valid
    exact valid.1

theorem Canonical.map_idents {tokens : List Token} (canonical : Canonical tokens) (change : Token → Token)
    (others : ∀ token ∈ tokens, token.kind ≠ .ident → change token = token)
    (idents : ∀ token ∈ tokens, token.kind = .ident →
      (change token).kind = .ident ∧ Text.isIdentifier (change token).text = true) :
    Canonical (tokens.map change) := by
  induction canonical with
  | nil => exact .nil
  | @cons token rest spelled stops later ih =>
    have kept : (change token).Spelled ∧ (change token).kind = token.kind := by
      by_cases word : token.kind = .ident
      · have renamed := idents token (by simp) word
        exact ⟨(Token.spelled_iff_of_ident renamed.1).mpr renamed.2, renamed.1.trans word.symm⟩
      · rw [others token (by simp) word]
        exact ⟨spelled, rfl⟩
    refine .cons kept.1 ?_ (ih (fun other member => others other (by simp [member]))
      (fun other member => idents other (by simp [member])))
    intro c starts
    rw [kept.2]
    -- Only the token right after can matter, and it starts an identifier before and after the change.
    cases later with
    | nil => cases starts
    | @cons next rest nextSpelled _ _ =>
      rw [List.map_cons, render_cons] at starts
      rw [render_cons] at stops
      by_cases word : next.kind = .ident
      · have renamed := idents next (by simp) word
        have start := isIdentStart_of_head renamed.2 starts
        obtain ⟨first, run, text, begins, _⟩ := nextSpelled
        have stop := stops first (by simp [text])
        rw [continues_identStart _ (isIdentStart_of_ofFirst (begins.trans word))] at stop
        rw [continues_identStart _ start, stop]
      · rw [others next (by simp) word] at starts
        obtain ⟨first, run, text, _, _⟩ := nextSpelled
        refine stops c ?_
        rw [text] at starts ⊢
        exact starts

/-! Canonical lists in parts. A list can be cut between any two tokens, and parts fit together where the
token before the cut stops. -/

theorem canonical_cons {token : Token} {rest : List Token} :
    Canonical (token :: rest) ↔
      token.Spelled ∧ (∀ c ∈ (render rest).head?, token.kind.continues c = false) ∧ Canonical rest := by
  constructor
  · intro canonical
    cases canonical with
    | cons spelled stops later => exact ⟨spelled, stops, later⟩
  · rintro ⟨spelled, stops, later⟩
    exact .cons spelled stops later

theorem canonical_append {left right : List Token} :
    Canonical (left ++ right) ↔
      Canonical left ∧ Canonical right ∧
        ∀ last ∈ left.getLast?, ∀ c ∈ (render right).head?, last.kind.continues c = false := by
  induction left with
  | nil => simpa using fun _ => Canonical.nil
  | cons token rest ih =>
    cases rest with
    | nil =>
      rw [List.singleton_append, canonical_cons]
      constructor
      · rintro ⟨spelled, stops, later⟩
        refine ⟨.cons spelled (by simp [render]) .nil, later, ?_⟩
        rintro last ⟨⟩
        exact stops
      · rintro ⟨single, later, between⟩
        exact ⟨single.spelled token List.mem_cons_self, between token rfl, later⟩
    | cons next rest =>
      have starts : next.Spelled → (render (next :: rest ++ right)).head? = (render (next :: rest)).head? := by
        rintro ⟨first, run, text, _, _⟩
        simp [render_cons, text]
      rw [List.cons_append, canonical_cons, ih, List.getLast?_cons_cons]
      constructor
      · rintro ⟨spelled, stops, later, after, between⟩
        rw [starts (later.spelled next List.mem_cons_self)] at stops
        exact ⟨.cons spelled stops later, after, between⟩
      · rintro ⟨whole, after, between⟩
        obtain ⟨spelled, stops, later⟩ := canonical_cons.mp whole
        rw [← starts (later.spelled next List.mem_cons_self)] at stops
        exact ⟨spelled, stops, later, after, between⟩

/-! Characters that are tokens by themselves wherever they stand. -/

/-- A character that lengthens no token, and that nothing lengthens. -/
structure Lone (c : Char) : Prop where
  apart : ∀ kind : TokenKind, kind.continues c = false
  alone : ∀ next, (TokenKind.ofFirst c).continues next = false

theorem Lone.ne_ident {c : Char} (lone : Lone c) : TokenKind.ofFirst c ≠ .ident := by
  intro word
  have lengthens := lone.alone 'a'
  rw [word] at lengthens
  exact absurd lengthens (by decide)

theorem Lone.lineFeed : Lone '\n' where
  apart kind := by cases kind <;> decide
  alone _ := rfl

theorem Token.Spelled.eq_of_mem {token : Token} (spelled : token.Spelled) {c : Char} (inside : c ∈ token.text)
    (lone : Lone c) : token = ⟨.ofFirst c, [c]⟩ := by
  obtain ⟨first, run, text, begins, lengthens⟩ := spelled
  have start : first = c := by
    rw [text] at inside
    rcases List.mem_cons.mp inside with same | later
    · exact same.symm
    · have lengthened := lengthens c later
      rw [lone.apart] at lengthened
      cases lengthened
  subst start
  have empty : run = [] := by
    cases run with
    | nil => rfl
    | cons next rest =>
      have lengthened := lengthens next List.mem_cons_self
      rw [← begins, lone.alone] at lengthened
      cases lengthened
  rw [begins, ← empty, ← text]

theorem Token.Spelled.ne_nil {token : Token} (spelled : token.Spelled) : token.text ≠ [] := by
  obtain ⟨first, run, text, _⟩ := spelled
  simp [text]

end ShaderPair
