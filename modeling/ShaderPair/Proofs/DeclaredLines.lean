import ShaderPair.Proofs.CollapsedLines
import ShaderPair.Proofs.HiddenWords
import ShaderPair.Proofs.ReturnedTokens
import ShaderPair.Proofs.Rows

/-! Declarations as lines of text. They are found by a window of five tokens at every line start, and the window
may reach over the line end. The main statement says that all the same each row of the text is read by itself:
it declares something exactly when it starts with the qualifier, a type and a name with blanks between them. -/

namespace ShaderPair

open Text

/-- A line that starts with a declaration. The name goes as far as it can. -/
def Declares (qualifier line : Text) (declaration : Declaration) : Prop :=
  ∃ gap space rest, AreBlanks gap ∧ AreBlanks space ∧ isIdentifier declaration.type = true ∧
    isIdentifier declaration.name = true ∧
    line = qualifier ++ (gap ++ (declaration.type ++ (space ++ (declaration.name ++ rest)))) ∧
    ∀ c ∈ rest.head?, isIdentRest c = false

def lineDeclaration? (qualifier line : Text) : Option Declaration := leadingDeclaration? qualifier (tokenize line)

/-- Lines, and what those of them declare that declare something. -/
inductive DeclaresLines (qualifier : Text) : List Text → List Declaration → Prop where
  | nil : DeclaresLines qualifier [] []
  | declared {line : Text} {declaration : Declaration} (declares : Declares qualifier line declaration)
      {lines : List Text} {declarations : List Declaration} (later : DeclaresLines qualifier lines declarations) :
      DeclaresLines qualifier (line :: lines) (declaration :: declarations)
  | other {line : Text} (silent : ∀ declaration, ¬Declares qualifier line declaration)
      {lines : List Text} {declarations : List Declaration} (later : DeclaresLines qualifier lines declarations) :
      DeclaresLines qualifier (line :: lines) declarations

/-! One line. -/

theorem Token.spelled_space_iff (text : Text) :
    (⟨.space, text⟩ : Token).Spelled ↔ AreBlanks text ∧ '\n' ∉ text := by
  constructor
  · intro spelled
    have inner : TokenKind.space ≠ .newline := by decide
    exact ⟨⟨spelled.ne_nil, fun c inside => spelled.isBlank_of_mem inside⟩, spelled.no_feed inner⟩
  · intro blank
    obtain ⟨⟨filled, blanks⟩, unbroken⟩ := blank
    obtain ⟨first, run, rfl⟩ := List.exists_cons_of_ne_nil filled
    have spacing : ∀ c ∈ first :: run, isSpacing c = true := by
      intro c inside
      have other : c ≠ '\n' := fun same => unbroken (same ▸ inside)
      simp [isSpacing, blanks c inside, other]
    refine ⟨first, run, rfl, ?_, fun c inside => spacing c (List.mem_cons_of_mem _ inside)⟩
    have blank := blanks first List.mem_cons_self
    rw [isBlank_eq_ofFirst, Bool.or_eq_true, beq_iff_eq, beq_iff_eq] at blank
    rcases blank with space | newline
    · exact space
    · have spelled : (⟨.newline, [first]⟩ : Token).Spelled := ⟨first, [], rfl, newline, by simp⟩
      cases spelled.eq_newline rfl
      exact absurd List.mem_cons_self unbroken

theorem leadingDeclaration?_eq_some {qualifier : Text} {tokens : List Token} {declaration : Declaration} :
    leadingDeclaration? qualifier tokens = some declaration ↔
      ∃ gap space rest, tokens = ⟨.ident, qualifier⟩ :: ⟨.space, gap⟩ :: ⟨.ident, declaration.type⟩ ::
        ⟨.space, space⟩ :: ⟨.ident, declaration.name⟩ :: rest := by
  constructor
  · intro found
    unfold leadingDeclaration? at found
    split at found
    · next first gap type space name rest =>
      split at found
      · next fits =>
        simp only [Bool.and_eq_true, beq_iff_eq] at fits
        obtain ⟨⟨⟨⟨qualified, gapped⟩, typed⟩, spaced⟩, named⟩ := fits
        cases found
        have word : ∀ {token : Token} {kind : TokenKind}, token.kind = kind → token = ⟨kind, token.text⟩ := by
          rintro token _ rfl
          rfl
        refine ⟨gap.text, space.text, rest, ?_⟩
        rw [(Token.isIdent_iff first qualifier).mp qualified, ← word gapped, ← word typed, ← word spaced, ← word named]
      · cases found
    · cases found
  · intro shape
    obtain ⟨gap, space, rest, rfl⟩ := shape
    simp [leadingDeclaration?, Token.isIdent]

theorem stops_at_blanks {blanks : Text} (areBlanks : AreBlanks blanks) (rest : Text) :
    ∀ c ∈ (blanks ++ rest).head?, isIdentRest c = false := by
  obtain ⟨filled, blank⟩ := areBlanks
  obtain ⟨first, run, rfl⟩ := List.exists_cons_of_ne_nil filled
  intro c starts
  cases starts
  exact isIdentRest_of_isBlank (blank first List.mem_cons_self)

theorem stops_at_word {name : Text} (valid : isIdentifier name = true) (rest : Text) :
    ∀ c ∈ (name ++ rest).head?, isSpacing c = false := by
  intro c starts
  rw [isSpacing, isBlank_of_isIdentStart (isIdentStart_of_head valid starts), Bool.false_and]

theorem lineDeclaration?_eq_some {qualifier line : Text} (valid : isIdentifier qualifier = true)
    (unbroken : '\n' ∉ line) (declaration : Declaration) :
    lineDeclaration? qualifier line = some declaration ↔ Declares qualifier line declaration := by
  rw [lineDeclaration?, leadingDeclaration?_eq_some]
  constructor
  · intro shape
    obtain ⟨gap, space, rest, shape⟩ := shape
    have canonical := canonical_tokenize line
    have text := render_tokenize line
    rw [shape] at canonical text
    simp only [render_cons] at text
    obtain ⟨_, _, canonical⟩ := canonical_cons.mp canonical
    obtain ⟨gapped, _, canonical⟩ := canonical_cons.mp canonical
    obtain ⟨typed, _, canonical⟩ := canonical_cons.mp canonical
    obtain ⟨spaced, _, canonical⟩ := canonical_cons.mp canonical
    obtain ⟨named, stops, _⟩ := canonical_cons.mp canonical
    exact ⟨gap, space, render rest, ((Token.spelled_space_iff gap).mp gapped).1,
      ((Token.spelled_space_iff space).mp spaced).1, (Token.spelled_iff_of_ident rfl).mp typed,
      (Token.spelled_iff_of_ident rfl).mp named, text.symm, stops⟩
  · intro declares
    obtain ⟨gap, space, rest, gapped, spaced, typed, named, rfl, stops⟩ := declares
    simp only [List.mem_append, not_or] at unbroken
    obtain ⟨_, gapUnbroken, _, spaceUnbroken, _⟩ := unbroken
    refine ⟨gap, space, tokenize rest, ?_⟩
    have canonical : Canonical (⟨.ident, qualifier⟩ :: ⟨.space, gap⟩ :: ⟨.ident, declaration.type⟩ ::
        ⟨.space, space⟩ :: ⟨.ident, declaration.name⟩ :: tokenize rest) := by
      simp only [canonical_cons, render_cons, render_tokenize]
      exact ⟨(Token.spelled_iff_of_ident rfl).mpr valid, stops_at_blanks gapped _,
        (Token.spelled_space_iff gap).mpr ⟨gapped, gapUnbroken⟩, stops_at_word typed _,
        (Token.spelled_iff_of_ident rfl).mpr typed, stops_at_blanks spaced _,
        (Token.spelled_space_iff space).mpr ⟨spaced, spaceUnbroken⟩, stops_at_word named _,
        (Token.spelled_iff_of_ident rfl).mpr named, stops, canonical_tokenize rest⟩
    rw [← tokenize_render canonical]
    simp only [render_cons, render_tokenize]

/-! All lines. -/

theorem inner_of_unbroken {line : Text} (unbroken : '\n' ∉ line) : ∀ token ∈ tokenize line, token.kind ≠ .newline := by
  intro token member closed
  have spelled := (canonical_tokenize line).spelled token member
  have feed : '\n' ∈ token.text := by simp [spelled.eq_newline closed]
  exact unbroken (mem_of_mem_tokenize member feed)

namespace Body

theorem declarations_unbroken (qualifier : Text) {line : Text} (unbroken : '\n' ∉ line) :
    (ofText line).declarations qualifier = (lineDeclaration? qualifier line).toList := by
  rw [declarations_eq_lines]
  change (tokenLines (tokenize line)).filterMap _ = _
  by_cases filled : tokenize line = []
  · rw [lineDeclaration?, filled]
    rfl
  · rw [tokenLines_unclosed filled (inner_of_unbroken unbroken), filterMap_cons_toList, List.filterMap_nil,
      List.append_nil, lineDeclaration?]

theorem declarations_line (qualifier : Text) {line : Text} (unbroken : '\n' ∉ line) (rest : Text) :
    (ofText (line ++ '\n' :: rest)).declarations qualifier =
      (lineDeclaration? qualifier line).toList ++ (ofText rest).declarations qualifier := by
  have tokens : tokenize (line ++ '\n' :: rest) = tokenize line ++ ⟨.newline, ['\n']⟩ :: tokenize rest := by
    rw [tokenize_append fun last _ c starts => by cases starts; exact continues_feed last.kind, tokenize_feed]
  rw [declarations_eq_lines, declarations_eq_lines]
  change (tokenLines (tokenize (line ++ '\n' :: rest))).filterMap _ = _ ++ (tokenLines (tokenize rest)).filterMap _
  rw [tokens, tokenLines_closed (inner_of_unbroken unbroken) rfl, filterMap_cons_toList,
    (readsKinds_leadingDeclaration qualifier).concat (by decide) (tokenize line) rfl, lineDeclaration?]

theorem declarations_join (qualifier : Text) {lines : List Text} (unbroken : ∀ line ∈ lines, '\n' ∉ line) :
    (ofText (join "\n" lines)).declarations qualifier = lines.filterMap (lineDeclaration? qualifier) := by
  induction lines with
  | nil =>
    rw [join, declarations_unbroken qualifier List.not_mem_nil, lineDeclaration?, tokenize]
    rfl
  | cons line lines ih =>
    have here := unbroken line List.mem_cons_self
    have later := ih fun other member => unbroken other (List.mem_cons_of_mem _ member)
    cases lines with
    | nil => rw [join, declarations_unbroken qualifier here, filterMap_cons_toList, List.filterMap_nil, List.append_nil]
    | cons next lines =>
      rw [join, List.append_assoc, filterMap_cons_toList, ← later]
      exact declarations_line qualifier here _

theorem declarations_eq_rows (qualifier text : Text) :
    (ofText text).declarations qualifier = (rows text).filterMap (lineDeclaration? qualifier) := by
  have read := declarations_join qualifier fun row (member : row ∈ rows text) => not_mem_of_mem_split member rfl
  rwa [join_rows] at read

end Body

theorem declaresLines_iff {qualifier : Text} (valid : isIdentifier qualifier = true) {lines : List Text}
    (unbroken : ∀ line ∈ lines, '\n' ∉ line) (declarations : List Declaration) :
    lines.filterMap (lineDeclaration? qualifier) = declarations ↔
      DeclaresLines qualifier lines declarations := by
  constructor
  · rintro rfl
    induction lines with
    | nil => exact .nil
    | cons line lines ih =>
      have reads := lineDeclaration?_eq_some valid (unbroken line List.mem_cons_self)
      have later := ih fun other member => unbroken other (List.mem_cons_of_mem _ member)
      cases found : lineDeclaration? qualifier line with
      | none =>
        rw [List.filterMap_cons_none found]
        refine .other (fun declaration declares => ?_) later
        rw [(reads declaration).mpr declares] at found
        cases found
      | some declaration =>
        rw [List.filterMap_cons_some found]
        exact .declared ((reads declaration).mp found) later
  · intro declares
    induction declares with
    | nil => rfl
    | @declared line declaration declares lines declarations later ih =>
      have found := (lineDeclaration?_eq_some valid (unbroken line List.mem_cons_self) declaration).mpr declares
      rw [List.filterMap_cons_some found, ih fun other member => unbroken other (List.mem_cons_of_mem _ member)]
    | @other line silent lines declarations later ih =>
      have reads := lineDeclaration?_eq_some valid (unbroken line List.mem_cons_self)
      cases found : lineDeclaration? qualifier line with
      | none =>
        rw [List.filterMap_cons_none found, ih fun other member => unbroken other (List.mem_cons_of_mem _ member)]
      | some declaration => exact absurd ((reads declaration).mp found) (silent declaration)

/-- The declarations of a text are those of its rows, in their order. So the declarations of two texts that are put
together with a line feed are those of the one, followed by those of the other. -/
theorem Body.declarations_by_rows {qualifier : Text} (valid : isIdentifier qualifier = true) :
    (∀ text declarations, (ofText text).declarations qualifier = declarations ↔
      DeclaresLines qualifier (rows text) declarations) ∧
      ∀ left right, (ofText (left ++ "\n" ++ right)).declarations qualifier =
        (ofText left).declarations qualifier ++ (ofText right).declarations qualifier := by
  refine ⟨?_, ?_⟩
  · intro text declarations
    rw [declarations_eq_rows]
    exact declaresLines_iff valid (fun row member => not_mem_of_mem_split member rfl) declarations
  · intro left right
    rw [List.append_assoc]
    change (ofText (left ++ '\n' :: right)).declarations qualifier = _
    rw [declarations_eq_rows, rows_append, List.filterMap_append, ← declarations_eq_rows, ← declarations_eq_rows]

def mixedRows : Text :=
  "uniform vec4 a;\n uniform vec4 b;\nuniform\tmat4 \r\x0cc9_[4]\r\nuniformvec4 d;\nuniform\nvec4 e;\n" ++
    "uniform 4 f;\nuniform vec4"

theorem Body.declarations_by_rows_mixed :
    isIdentifier "uniform" = true ∧ DeclaresLines "uniform" (rows mixedRows) [⟨"vec4", "a"⟩, ⟨"mat4", "c9_"⟩] ∧
      (ofText (mixedRows ++ "\n" ++ " g;")).declarations "uniform" = [⟨"vec4", "a"⟩, ⟨"mat4", "c9_"⟩] := by
  have found : (ofText mixedRows).declarations "uniform" = [⟨"vec4", "a"⟩, ⟨"mat4", "c9_"⟩] := by decide +kernel
  have valid : isIdentifier "uniform" = true := by decide
  obtain ⟨lines, joined⟩ := declarations_by_rows valid
  refine ⟨valid, (lines mixedRows _).mp found, ?_⟩
  rw [joined, found]
  decide +kernel

end ShaderPair
