import ShaderPair.Proofs.EditedTokens
import ShaderPair.Semantic

/-! Hidden semantics by words. Hiding replaces whole identifiers by identifiers, so it can be done to the
parts of a text one by one wherever the text is cut between two tokens. Blanks, line ends and the first
characters of words stay what they were, and the statements here say so for each way in which a text is
cut while directives are looked for. -/

namespace ShaderPair

/-! Blanks are in tokens of their own. -/

theorem isIdentRest_of_mem {name : Text} (valid : Text.isIdentifier name = true) {c : Char} (inside : c ∈ name) :
    isIdentRest c = true := by
  cases name with
  | nil => cases inside
  | cons first run =>
    simp only [Text.isIdentifier, Bool.and_eq_true, List.all_eq_true] at valid
    rcases List.mem_cons.mp inside with rfl | later
    · exact isIdentRest_of_isIdentStart valid.1
    · exact valid.2 c later

theorem isBlank_eq_ofFirst (c : Char) :
    Text.isBlank c = (TokenKind.ofFirst c == .space || TokenKind.ofFirst c == .newline) := by
  unfold TokenKind.ofFirst
  by_cases feed : c = '\n'
  · subst feed
    decide
  · rw [if_neg (by simpa using feed)]
    split
    · next start =>
      rw [isBlank_of_isIdentStart start]
      rfl
    · split
      · next digit =>
        rw [isBlank_of_isDigit digit]
        rfl
      · split
        · next blank =>
          rw [blank]
          rfl
        · next solid =>
          rw [(Bool.not_eq_true _).mp solid]
          rfl

def Token.isBlank (token : Token) : Bool := token.kind == .space || token.kind == .newline

theorem Token.Spelled.isBlank_of_mem {token : Token} (spelled : token.Spelled) {c : Char}
    (inside : c ∈ token.text) : Text.isBlank c = token.isBlank := by
  obtain ⟨kind, text⟩ := token
  obtain ⟨first, run, rfl, rfl, lengthens⟩ := spelled
  rcases List.mem_cons.mp inside with rfl | later
  · exact isBlank_eq_ofFirst c
  · have lengthened := lengthens c later
    generalize TokenKind.ofFirst first = kind at lengthened ⊢
    cases kind with
    | ident => exact isBlank_of_isIdentRest lengthened
    | number =>
      rcases Bool.or_eq_true_iff.mp lengthened with word | point
      · exact isBlank_of_isIdentRest word
      · rw [eq_of_beq point]
        rfl
    | space => exact (Bool.and_eq_true_iff.mp lengthened).1
    | newline => cases lengthened
    | punct => cases lengthened

/-! Trimming takes off whole tokens. -/

theorem Token.Spelled.trimStart_append {token : Token} (spelled : token.Spelled) (rest : Text) :
    Text.trimStart (token.text ++ rest) = if token.isBlank then Text.trimStart rest else token.text ++ rest := by
  split
  · next blank =>
    have blanks : ∀ c ∈ token.text, Text.isBlank c = true := fun c inside =>
      (spelled.isBlank_of_mem inside).trans blank
    exact List.dropWhile_append_of_pos blanks
  · next solid =>
    obtain ⟨first, run, text, _⟩ := id spelled
    have kept : ¬Text.isBlank first = true := by rwa [spelled.isBlank_of_mem (by simp [text])]
    rw [text]
    exact List.dropWhile_cons_of_neg kept

theorem Token.Spelled.trimEnd_text {token : Token} (spelled : token.Spelled) :
    Text.trimEnd token.text = if token.isBlank then [] else token.text := by
  have same : ∀ c ∈ token.text.reverse, Text.isBlank c = token.isBlank := fun c inside =>
    spelled.isBlank_of_mem (List.mem_reverse.mp inside)
  rw [Text.trimEnd]
  split
  · next blank =>
    rw [← List.append_nil token.text.reverse,
      List.dropWhile_append_of_pos fun c inside => (same c inside).trans blank]
    rfl
  · next solid =>
    rw [List.reverse_eq_iff]
    cases reversed : token.text.reverse with
    | nil => rfl
    | cons last earlier =>
      rw [List.dropWhile_cons_of_neg]
      rwa [same last (by simp [reversed])]

/-! A text token by token. -/

/-- Every text is empty or starts with a token that stops where the rest begins. -/
@[elab_as_elim]
theorem Text.token_induction {motive : Text → Prop} (empty : motive [])
    (first : ∀ (token : Token) (rest : Text), token.Spelled →
      (∀ c ∈ rest.head?, token.kind.continues c = false) → motive rest → motive (token.text ++ rest))
    (text : Text) : motive text := by
  rw [← render_tokenize text]
  have canonical := canonical_tokenize text
  generalize tokenize text = tokens at canonical
  induction canonical with
  | nil => exact empty
  | @cons token rest spelled stops later ih =>
    rw [render_cons]
    exact first token (render rest) spelled stops ih

theorem Token.Spelled.canonical {token : Token} (spelled : token.Spelled) : Canonical [token] :=
  .cons spelled (by simp [render]) .nil

theorem Token.Spelled.tokenize_text {token : Token} (spelled : token.Spelled) : tokenize token.text = [token] := by
  simpa [render] using tokenize_render spelled.canonical

theorem tokenize_append {left right : Text}
    (stops : ∀ last ∈ (tokenize left).getLast?, ∀ c ∈ right.head?, last.kind.continues c = false) :
    tokenize (left ++ right) = tokenize left ++ tokenize right := by
  have canonical : Canonical (tokenize left ++ tokenize right) := by
    refine canonical_append.mpr ⟨canonical_tokenize left, canonical_tokenize right, ?_⟩
    rwa [render_tokenize]
  rw [← tokenize_render canonical, render_append, render_tokenize, render_tokenize]

namespace Semantic

def hiddenToken (token : Token) : Token := token.rename hiddenNames

theorem isIdentifier_hidden {key name : Text} (held : hiddenNames.get? key = some name) :
    Text.isIdentifier name = true := by
  have all : ∀ pair ∈ placeholders.map fun pair => (Text.upper pair.2, Text.upper pair.1),
      Text.isIdentifier pair.2 = true := by decide
  exact all (key, name) (Table.mem_of_get?_ofPairs held)

theorem tokenize_hide (source : Text) : tokenize (hide source) = (tokenize source).map hiddenToken :=
  tokenize_render ((canonical_tokenize source).rename fun _ _ held => isIdentifier_hidden held)

theorem hide_append {left right : Text}
    (stops : ∀ last ∈ (tokenize left).getLast?, ∀ c ∈ right.head?, last.kind.continues c = false) :
    hide (left ++ right) = hide left ++ hide right := by
  rw [hide, tokenize_append stops, List.map_append, render_append]
  rfl

theorem hide_nil : hide [] = [] := by
  simp [hide, tokenize, render]

section

variable {token : Token} (spelled : token.Spelled)

include spelled

theorem hide_text : hide token.text = (hiddenToken token).text := by
  rw [hide, spelled.tokenize_text]
  simp [render, hiddenToken]

theorem hide_first {rest : Text} (stops : ∀ c ∈ rest.head?, token.kind.continues c = false) :
    hide (token.text ++ rest) = (hiddenToken token).text ++ hide rest := by
  rw [hide_append, hide_text spelled]
  rw [spelled.tokenize_text]
  rintro last ⟨⟩
  exact stops

theorem spelled_hiddenToken : (hiddenToken token).Spelled := by
  have renamed := spelled.canonical.rename fun _ _ held => isIdentifier_hidden held
  exact renamed.spelled _ (by simp [hiddenToken])

end

theorem hiddenToken_kind (token : Token) : (hiddenToken token).kind = token.kind := Token.rename_kind _ token

theorem hiddenToken_of_ne_ident {token : Token} (other : token.kind ≠ .ident) : hiddenToken token = token :=
  Token.rename_of_ne_ident _ other

/-- A part of a token that is no identifier hides nothing. -/
theorem hide_of_part {token : Token} (spelled : token.Spelled) (other : token.kind ≠ .ident) {part : Text}
    (within : part <+: token.text) : hide part = part := by
  obtain ⟨first, run, text, begins, lengthens⟩ := spelled
  rw [text] at within
  cases part with
  | nil => exact hide_nil
  | cons c later =>
    obtain ⟨rfl, shorter⟩ := List.cons_prefix_cons.mp within
    have part : Token.Spelled ⟨token.kind, c :: later⟩ :=
      ⟨c, later, rfl, begins, fun next inside => lengthens next (shorter.subset inside)⟩
    have kept : hiddenToken ⟨token.kind, c :: later⟩ = ⟨token.kind, c :: later⟩ := hiddenToken_of_ne_ident other
    rw [hide_text part, kept]

theorem hide_eq_nil {text : Text} : hide text = [] ↔ text = [] := by
  induction text using Text.token_induction with
  | empty => simp [hide_nil]
  | first token rest spelled stops _ =>
    rw [hide_first spelled stops]
    simp [spelled.ne_nil, (spelled_hiddenToken spelled).ne_nil]

/-- A test that treats all letters and underscores alike finds the same at the start of a text. -/
theorem head?_hide {test : Char → Bool} {answer : Bool} (words : ∀ c, isIdentStart c = true → test c = answer)
    (text : Text) : (hide text).head?.any test = text.head?.any test := by
  induction text using Text.token_induction with
  | empty => rw [hide_nil]
  | first token rest spelled stops _ =>
    rw [hide_first spelled stops]
    by_cases word : token.kind = .ident
    · have begins : ∀ {token : Token} (rest : Text), token.Spelled → token.kind = .ident →
          (token.text ++ rest).head?.any test = answer := by
        rintro token rest ⟨first, run, text, begins, _⟩ word
        simpa [text] using words first (isIdentStart_of_ofFirst (begins.trans word))
      rw [begins rest spelled word,
        begins (hide rest) (spelled_hiddenToken spelled) ((hiddenToken_kind token).trans word)]
    · rw [hiddenToken_of_ne_ident word]
      obtain ⟨first, run, text, _, _⟩ := spelled
      simp [text]

theorem stops_hide {kind : TokenKind} {text : Text} (stops : ∀ c ∈ text.head?, kind.continues c = false) :
    ∀ c ∈ (hide text).head?, kind.continues c = false := by
  have same := head?_hide (fun c start => continues_identStart kind start) text
  have none : text.head?.any kind.continues = false := by
    cases first : text.head? with
    | none => rfl
    | some c => exact stops c first
  rw [none] at same
  intro c starts
  rw [Option.mem_def.mp starts] at same
  exact same

/-! Runs. A run that takes in whole identifiers is cut off before, after or inside another token. -/

theorem stops_of_part {kind : TokenKind} {part text : Text} (within : part <+: text)
    (stops : ∀ c ∈ text.head?, kind.continues c = false) : ∀ c ∈ part.head?, kind.continues c = false := by
  intro c starts
  obtain ⟨later, rfl⟩ := within
  cases part with
  | nil => cases starts
  | cons first run => exact stops c starts

theorem takeWhile_hide {test : Char → Bool} (words : ∀ c, isIdentRest c = true → test c = true) (text : Text) :
    (hide text).takeWhile test = hide (text.takeWhile test) := by
  induction text using Text.token_induction with
  | empty => rw [hide_nil, List.takeWhile_nil, hide_nil]
  | first token rest spelled stops ih =>
    have passes : ∀ {token : Token}, token.Spelled → token.kind = .ident → ∀ c ∈ token.text, test c = true := by
      intro token spelled word c inside
      have valid := (Token.spelled_iff_of_ident word).mp spelled
      exact words c (isIdentRest_of_mem valid inside)
    rw [hide_first spelled stops]
    -- The run takes in the whole token, or it stops inside one that is no identifier and so is not hidden.
    by_cases whole : ∀ c ∈ token.text, test c = true
    · have hidden : ∀ c ∈ (hiddenToken token).text, test c = true := by
        by_cases word : token.kind = .ident
        · exact passes (spelled_hiddenToken spelled) ((hiddenToken_kind token).trans word)
        · rwa [hiddenToken_of_ne_ident word]
      rw [List.takeWhile_append_of_pos whole, List.takeWhile_append_of_pos hidden, ih,
        hide_first spelled (stops_of_part (List.takeWhile_prefix test) stops)]
    · have other : token.kind ≠ .ident := fun word => whole (passes spelled word)
      have short : ∀ rest, (token.text ++ rest).takeWhile test = token.text.takeWhile test := by
        intro rest
        rw [List.takeWhile_append, if_neg]
        intro same
        have taken := (List.takeWhile_prefix test).eq_of_length same
        rw [← taken] at whole
        exact whole fun c inside => List.all_eq_true.mp List.all_takeWhile c inside
      rw [hiddenToken_of_ne_ident other, short, short,
        hide_of_part spelled other (List.takeWhile_prefix test)]

theorem isBlank_hiddenToken (token : Token) : (hiddenToken token).isBlank = token.isBlank := by
  rw [Token.isBlank, hiddenToken_kind, Token.isBlank]

theorem trimStart_hide (text : Text) : Text.trimStart (hide text) = hide (Text.trimStart text) := by
  induction text using Text.token_induction with
  | empty => rw [hide_nil, Text.trimStart, List.dropWhile_nil, hide_nil]
  | first token rest spelled stops ih =>
    rw [hide_first spelled stops, (spelled_hiddenToken spelled).trimStart_append, isBlank_hiddenToken,
      spelled.trimStart_append]
    split
    · exact ih
    · rw [hide_first spelled stops]

theorem trimEnd_hide (text : Text) : Text.trimEnd (hide text) = hide (Text.trimEnd text) := by
  induction text using Text.token_induction with
  | empty => rw [hide_nil, Text.trimEnd, List.reverse_nil, List.dropWhile_nil, List.reverse_nil, hide_nil]
  | first token rest spelled stops ih =>
    rw [hide_first spelled stops, Text.trimEnd_append, Text.trimEnd_append, ih]
    -- Trimming reaches this token in the hidden text exactly when it reaches it in the source.
    simp only [hide_eq_nil]
    split
    · rw [(spelled_hiddenToken spelled).trimEnd_text, isBlank_hiddenToken, spelled.trimEnd_text]
      split
      · rw [hide_nil]
      · rw [hide_text spelled]
    · rw [hide_first spelled (stops_of_part (Text.prefix_trimEnd rest) stops)]

theorem trim_hide (text : Text) : Text.trim (hide text) = hide (Text.trim text) := by
  rw [Text.trim, trimStart_hide, trimEnd_hide, Text.trim]

/-! Texts without hidden words are left as they are, and no others. -/

def reservedWords : List Text := ["NORMAL", "TANGENT", "BINORMAL", "TANGENT1", "BINORMAL1"]

theorem get?_hiddenNames_eq_none {name : Text} (absent : name ∉ reservedWords) : hiddenNames.get? name = none := by
  have keys : (placeholders.map fun pair => (Text.upper pair.2, Text.upper pair.1)).map Prod.fst = reservedWords := by
    decide
  apply Table.get?_ofPairs_eq_none
  rwa [keys]

theorem hiddenToken_eq_self {token : Token} :
    hiddenToken token = token ↔ ∀ word ∈ reservedWords, token ≠ ⟨.ident, word⟩ := by
  constructor
  · rintro kept word reserved rfl
    have changed : ∀ word ∈ reservedWords, hiddenToken ⟨.ident, word⟩ ≠ ⟨.ident, word⟩ := by decide
    exact changed word reserved kept
  · intro other
    by_cases word : token.kind = .ident
    · obtain ⟨kind, name⟩ := token
      cases word
      have absent : name ∉ reservedWords := fun reserved => other name reserved rfl
      rw [hiddenToken, Token.rename_ident, get?_hiddenNames_eq_none absent]
      rfl
    · exact hiddenToken_of_ne_ident word

theorem hide_eq_self {text : Text} :
    hide text = text ↔ ∀ word ∈ reservedWords, (⟨.ident, word⟩ : Token) ∉ tokenize text := by
  have canonical := (canonical_tokenize text).rename fun _ _ held => isIdentifier_hidden held
  apply (render_map_eq_self canonical).trans
  constructor
  · intro kept word reserved inside
    exact hiddenToken_eq_self.mp (kept _ inside) word reserved rfl
  · intro absent token inside
    refine hiddenToken_eq_self.mpr fun word reserved same => absent word reserved ?_
    rwa [← same]

end Semantic

end ShaderPair
