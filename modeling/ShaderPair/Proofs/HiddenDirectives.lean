import ShaderPair.Proofs.DirectiveSteps
import ShaderPair.Proofs.HiddenWords

/-! Directives of hidden sources. A directive is a mark followed by words and blanks, and hiding keeps all
three, so each step of the search for it finds in the hidden text what it finds in the source, hidden. The
main statement says so for the entry points and for the line of the load order. -/

namespace ShaderPair

theorem Text.isWordChar_of_isIdentRest {c : Char} (word : isIdentRest c = true) : isWordChar c = true := by
  have ascii : c.toNat < 128 := by
    delta isIdentRest Char.isAlphanum Char.isAlpha Char.isUpper Char.isLower Char.isDigit at word
    simp only [Bool.or_eq_true, Bool.and_eq_true, decide_eq_true_eq, UInt32.le_iff_toNat_le, ge_iff_le,
      beq_iff_eq] at word
    rcases word with alphanumeric | underscore
    · change ((65 ≤ c.toNat ∧ c.toNat ≤ 90) ∨ (97 ≤ c.toNat ∧ c.toNat ≤ 122)) ∨
        (48 ≤ c.toNat ∧ c.toNat ≤ 57) at alphanumeric
      omega
    · subst underscore
      decide
  rw [isWordChar, if_pos ascii]
  exact word

theorem Lone.hash : Lone '#' where
  apart kind := by cases kind <;> decide
  alone _ := rfl

namespace Semantic

open Directive

/-! Marks. -/

theorem mem_hiddenToken {mark : Char} (lone : Lone mark) {token : Token} (spelled : token.Spelled) :
    mark ∈ (hiddenToken token).text ↔ token = ⟨.ofFirst mark, [mark]⟩ := by
  constructor
  · intro inside
    have whole := (spelled_hiddenToken spelled).eq_of_mem inside lone
    have other : token.kind ≠ .ident := by
      rw [← hiddenToken_kind, whole]
      exact lone.ne_ident
    rwa [hiddenToken_of_ne_ident other] at whole
  · rintro rfl
    rw [hiddenToken_of_ne_ident lone.ne_ident]
    exact List.mem_singleton_self mark

theorem hide_cons {mark : Char} (lone : Lone mark) (rest : Text) : hide (mark :: rest) = mark :: hide rest := by
  have spelled : Token.Spelled ⟨.ofFirst mark, [mark]⟩ := ⟨mark, [], rfl, rfl, by simp⟩
  have whole : hide ([mark] ++ rest) = (hiddenToken ⟨.ofFirst mark, [mark]⟩).text ++ hide rest :=
    hide_first spelled fun next _ => lone.alone next
  rwa [hiddenToken_of_ne_ident lone.ne_ident] at whole

theorem rests_hide {mark : Char} (lone : Lone mark) (text : Text) :
    Text.rests mark (hide text) = (Text.rests mark text).map hide := by
  induction text using Text.token_induction with
  | empty =>
    rw [hide_nil]
    rfl
  | first token rest spelled stops ih =>
    rw [hide_first spelled stops]
    by_cases whole : token = ⟨.ofFirst mark, [mark]⟩
    · subst whole
      rw [hiddenToken_of_ne_ident lone.ne_ident]
      simp only [List.singleton_append, Text.rests_cons, if_true, List.map_cons, ih]
    · have absent : mark ∉ token.text := fun inside => whole (spelled.eq_of_mem inside lone)
      have hidden : mark ∉ (hiddenToken token).text := fun inside => whole ((mem_hiddenToken lone spelled).mp inside)
      rw [Text.rests_append absent, Text.rests_append hidden, ih]

/-! Steps of a search. -/

/-- What is found in a hidden text is what is found in the text, hidden. -/
def Commutes (look : Text → Option Text) : Prop := ∀ text, look (hide text) = (look text).map hide

theorem Commutes.bind {first next : Text → Option Text} (before : Commutes first) (after : Commutes next) :
    Commutes fun text => (first text).bind next := by
  intro text
  show (first (hide text)).bind next = ((first text).bind next).map hide
  rw [before text]
  cases first text with
  | none => rfl
  | some rest => exact after rest

theorem Commutes.findSome? {look : Text → Option Text} (commutes : Commutes look) (texts : List Text) :
    (texts.map hide).findSome? look = (texts.findSome? look).map hide := by
  induction texts with
  | nil => rfl
  | cons text rest ih =>
    rw [List.map_cons, List.findSome?_cons, List.findSome?_cons, commutes text]
    cases look text with
    | none => exact ih
    | some found => rfl

theorem commutes_afterBlanks : Commutes afterBlanks? := by
  intro text
  unfold afterBlanks?
  rw [head?_hide fun c start => isBlank_of_isIdentStart start, trimStart_hide]
  split <;> rfl

def WordEnd {α : Type} (look : Text → Option α) : Prop := ∀ c rest, isIdentRest c = true → look (c :: rest) = none

theorem afterBlanks?_wordEnd : WordEnd afterBlanks? := by
  intro c rest word
  simp [afterBlanks?, isBlank_of_isIdentRest word]

theorem WordEnd.bind {α β : Type} {first : Text → Option α} (ends : WordEnd first) (next : α → Option β) :
    WordEnd fun text => (first text).bind next := by
  intro c rest word
  show (first (c :: rest)).bind next = none
  rw [ends c rest word]
  rfl

/-- Where a word must end, a name is found only as a whole identifier. -/
theorem after?_bind {α : Type} {look : Text → Option α} (ends : WordEnd look) {name word rest : Text}
    (valid : Text.isIdentifier name = true) (identifier : Text.isIdentifier word = true)
    (stops : ∀ c ∈ rest.head?, isIdentRest c = false) :
    (Text.after? name (word ++ rest)).bind look = if word = name then look rest else none := by
  split
  · next same =>
    subst same
    rw [Text.after?_eq_some.mpr rfl]
    rfl
  · next other =>
    cases found : Text.after? name (word ++ rest) with
    | none => rfl
    | some tail =>
      rcases List.append_eq_append_iff.mp (Text.after?_eq_some.mp found) with
        ⟨more, longer, split⟩ | ⟨more, longer, split⟩
      · cases more with
        | nil => exact absurd (by simpa using longer.symm) other
        | cons c more =>
          have goes := isIdentRest_of_mem valid (c := c) (by simp [longer])
          rw [stops c (by simp [split])] at goes
          cases goes
      · cases more with
        | nil => exact absurd (by simpa using longer) other
        | cons c more =>
          rw [split]
          exact ends c _ (isIdentRest_of_mem identifier (by simp [longer]))

/-- A name that hiding neither takes away nor brings in. -/
def Visible (name : Text) : Prop := ∀ pair ∈ placeholders, Text.upper pair.1 ≠ name ∧ Text.upper pair.2 ≠ name

theorem Visible.hiddenToken {name : Text} (visible : Visible name) (token : Token) :
    (hiddenToken token).text = name ↔ token.text = name := by
  by_cases word : token.kind = .ident
  · obtain ⟨kind, text⟩ := token
    cases word
    rw [Semantic.hiddenToken, Token.rename_ident]
    cases held : hiddenNames.get? text with
    | none => rfl
    | some hidden =>
      obtain ⟨pair, row, same⟩ := List.mem_map.mp (Table.mem_of_get?_ofPairs held)
      obtain ⟨rfl, rfl⟩ := Prod.mk.inj same
      exact ⟨fun same => absurd same (visible pair row).1, fun same => absurd same (visible pair row).2⟩
  · rw [hiddenToken_of_ne_ident word]

theorem after?_of_ne_ident {name : Text} (valid : Text.isIdentifier name = true) {token : Token}
    (spelled : token.Spelled) (other : token.kind ≠ .ident) (rest : Text) :
    Text.after? name (token.text ++ rest) = none := by
  rw [Option.eq_none_iff_forall_ne_some]
  intro tail found
  obtain ⟨first, run, text, begins, _⟩ := spelled
  have starts : (name ++ tail).head? = some first := by
    rw [← Text.after?_eq_some.mp found, text]
    rfl
  exact other (begins.symm.trans (ofFirst_of_isIdentStart (isIdentStart_of_head valid starts)))

theorem commutes_after {look : Text → Option Text} (commutes : Commutes look) (ends : WordEnd look) {name : Text}
    (valid : Text.isIdentifier name = true) (visible : Visible name) :
    Commutes fun text => (Text.after? name text).bind look := by
  intro text
  show (Text.after? name (hide text)).bind look = ((Text.after? name text).bind look).map hide
  cases text using Text.token_induction with
  | empty =>
    have nothing : Text.after? name [] = none := by
      cases name with
      | nil => cases valid
      | cons c rest => rfl
    rw [hide_nil, nothing]
    rfl
  | first token rest spelled stops _ =>
    rw [hide_first spelled stops]
    -- A name is found where an identifier starts or nowhere, and only the whole identifier can be it.
    by_cases word : token.kind = .ident
    · have hidden := spelled_hiddenToken spelled
      have kind := (hiddenToken_kind token).trans word
      rw [word] at stops
      rw [after?_bind ends valid ((Token.spelled_iff_of_ident word).mp spelled) stops,
        after?_bind ends valid ((Token.spelled_iff_of_ident kind).mp hidden) (stops_hide stops),
        commutes rest]
      simp only [visible.hiddenToken]
      split <;> rfl
    · rw [hiddenToken_of_ne_ident word, after?_of_ne_ident valid spelled word, after?_of_ne_ident valid spelled word]
      rfl

/-! Entry points. -/

theorem commutes_word : Commutes word? := by
  intro text
  unfold word?
  rw [takeWhile_hide fun c word => Text.isWordChar_of_isIdentRest word]
  simp only [List.isEmpty_iff, hide_eq_nil]
  split <;> rfl

theorem commutes_wordAt {name : Text} (valid : Text.isIdentifier name = true) (visible : Visible name) :
    Commutes fun rest => wordAt? name ('#' :: rest) := by
  simp only [wordAt?_hash]
  apply commutes_after
  · apply commutes_afterBlanks.bind
    apply commutes_after
    · exact commutes_afterBlanks.bind commutes_word
    · exact afterBlanks?_wordEnd.bind word?
    · exact valid
    · exact visible
  · exact afterBlanks?_wordEnd.bind _
  · decide
  · unfold Visible
    decide

theorem entryPoint_hide (source : Text) (stage : Stage) :
    entryPoint (hide source) stage = (entryPoint source stage).map hide := by
  have valid : Text.isIdentifier stage.directive = true := by cases stage <;> decide
  have visible : Visible stage.directive := by cases stage <;> unfold Visible <;> decide
  have elsewhere : ∀ text : Text, text.head? ≠ some '#' → wordAt? stage.directive text = none :=
    by
    intro text other
    unfold wordAt?
    rw [after?_elsewhere stage.directive other]
    rfl
  unfold entryPoint
  rw [Text.findSome?_suffixes elsewhere, Text.findSome?_suffixes elsewhere, rests_hide .hash,
    (commutes_wordAt valid visible).findSome?]
  cases (Text.rests '#' source).findSome? fun rest => wordAt? stage.directive ('#' :: rest) with
  | none => rfl
  | some word => rfl

/-! The load order. -/

theorem commutes_afterLoadOrder : Commutes fun rest => afterLoadOrder? ('#' :: rest) := by
  simp only [afterLoadOrder?_hash]
  apply commutes_after
  · apply commutes_afterBlanks.bind
    apply commutes_after
    · intro text
      have same := head?_hide
        (fun c start => Text.isWordChar_of_isIdentRest (isIdentRest_of_isIdentStart start)) text
      simp only [same]
      split <;> rfl
    · intro c rest word
      simp [Text.isWordChar_of_isIdentRest word]
    · decide
    · unfold Visible
      decide
  · exact afterBlanks?_wordEnd.bind _
  · decide
  · unfold Visible
    decide

theorem hide_lines {left right : Text} (feed : ∀ c ∈ right.head?, c = '\n') :
    hide (left ++ right) = hide left ++ hide right := by
  apply hide_append
  intro last _ c starts
  rw [feed c starts]
  exact Lone.lineFeed.apart last.kind

theorem lineThrough_hide {text rest : Text} (here : rest <:+ text) (hidden : hide rest <:+ hide text) :
    lineThrough (hide text) (hide rest) = hide (lineThrough text rest) := by
  obtain ⟨opening, rfl⟩ := here
  obtain ⟨hiddenOpening, same⟩ := hidden
  have feed : ∀ c ∈ (rest.dropWhile (· != '\n')).head?, c = '\n' := by
    intro c starts
    have stop := List.head?_dropWhile_not (· != '\n') rest
    rw [Option.mem_def.mp starts] at stop
    simpa using stop
  have words : ∀ c, isIdentRest c = true → (c != '\n') = true := by
    intro c word
    rw [bne_iff_ne]
    rintro rfl
    exact absurd word (by decide)
  rw [← same, lineThrough_append, lineThrough_append, takeWhile_hide words]
  -- Both sides are the hidden text without the lines after this one.
  apply (List.append_left_inj (hide (rest.dropWhile (· != '\n')))).mp
  calc hiddenOpening ++ hide (rest.takeWhile (· != '\n')) ++ hide (rest.dropWhile (· != '\n'))
    _ = hiddenOpening ++ hide rest := by
      rw [List.append_assoc, ← hide_lines feed, List.takeWhile_append_dropWhile]
    _ = hide (opening ++ rest) := same
    _ = hide (opening ++ rest.takeWhile (· != '\n')) ++ hide (rest.dropWhile (· != '\n')) := by
      rw [← hide_lines feed, List.append_assoc, List.takeWhile_append_dropWhile]

theorem commutes_loadOrderLine : Commutes loadOrderLine? := by
  intro text
  induction text using Text.token_induction with
  | empty =>
    rw [hide_nil]
    rfl
  | first token rest spelled stops ih =>
    rw [hide_first spelled stops]
    -- A line end ends the search, a directive can start at a mark, and every other token is passed over.
    by_cases feed : token = ⟨.ofFirst '\n', ['\n']⟩
    · subst feed
      rfl
    · by_cases mark : token = ⟨.ofFirst '#', ['#']⟩
      · subst mark
        have after : afterLoadOrder? ('#' :: hide rest) = (afterLoadOrder? ('#' :: rest)).map hide :=
          commutes_afterLoadOrder rest
        rw [hiddenToken_of_ne_ident Lone.hash.ne_ident, List.singleton_append, List.singleton_append,
          loadOrderLine?_cons (by decide), loadOrderLine?_cons (by decide), ih]
        cases loadOrderLine? rest with
        | some line => exact congrArg some (hide_cons .hash line).symm
        | none =>
          cases found : afterLoadOrder? ('#' :: rest) with
          | none =>
            rw [after, found]
            rfl
          | some following =>
            rw [found] at after
            have inHidden := suffix_of_afterLoadOrder after
            rw [← hide_cons .hash] at after inHidden ⊢
            rw [after]
            exact congrArg some (lineThrough_hide (suffix_of_afterLoadOrder found) inHidden)
      · have noMark : '#' ∉ token.text := fun inside => mark (spelled.eq_of_mem inside .hash)
        have sameLine : '\n' ∉ token.text := fun inside => feed (spelled.eq_of_mem inside .lineFeed)
        have hiddenMark : '#' ∉ (hiddenToken token).text :=
          fun inside => mark ((mem_hiddenToken .hash spelled).mp inside)
        have hiddenLine : '\n' ∉ (hiddenToken token).text := fun inside =>
          feed ((mem_hiddenToken .lineFeed spelled).mp inside)
        rw [loadOrderLine?_append noMark sameLine, loadOrderLine?_append hiddenMark hiddenLine, ih]
        cases found : loadOrderLine? rest with
        | none => rfl
        | some line =>
          have kept := hide_first spelled (stops_of_part (prefix_of_loadOrderLine found) stops)
          exact congrArg some kept.symm

theorem loadOrder_hide (source : Text) : loadOrder (hide source) = (loadOrder source).map hide := by
  have suffixes : Text.lineSuffixes (hide source) = (Text.lineSuffixes source).map hide := by
    rw [Text.lineSuffixes_eq, Text.lineSuffixes_eq, rests_hide .lineFeed, List.map_cons]
  unfold loadOrder
  rw [suffixes, commutes_loadOrderLine.findSome?]
  cases (Text.lineSuffixes source).findSome? loadOrderLine? with
  | none => rfl
  | some line =>
    show Except.ok (Text.trim (hide line)) = Except.ok (hide (Text.trim line))
    rw [trim_hide]

/-- Directives can be read before or after reserved words are hidden: the same ones are missing, and what is
read is hidden in the one case as the source is in the other. It stays as it was exactly when it holds no
reserved word. -/
theorem directives_hide (source : Text) :
    (∀ stage, entryPoint (hide source) stage = (entryPoint source stage).map hide) ∧
      loadOrder (hide source) = (loadOrder source).map hide ∧
        ∀ value, hide value = value ↔ ∀ word ∈ reservedWords, (⟨.ident, word⟩ : Token) ∉ tokenize value :=
  ⟨entryPoint_hide source, loadOrder_hide source, fun _ => hide_eq_self⟩

-- A word may hold a reserved identifier beside characters that are not in identifiers.
example : entryPoint (hide "#o3d VertexShaderEntryPoint éNORMAL") .vertex = .ok "éATTR8" := by decide +kernel

end Semantic

end ShaderPair
