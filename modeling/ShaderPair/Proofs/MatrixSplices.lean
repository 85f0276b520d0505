import ShaderPair.Proofs.CollapsedLines

/-! Matrices spliced in place. The sites of the matrices are found once, and then the tokens are edited at
positions counted before the first edit. That is sound because the sites lie apart and the last one is
edited first: every edit finds its tokens where they were. The main statement says that no edit is out of
range and that the edits together rewrite each line by itself. -/

namespace ShaderPair

namespace Body

def setAt? (position : Nat) (token : Token) (tokens : List Token) : Option (List Token) :=
  if position < tokens.length then some (tokens.set position token) else none

def takeOut? (first last : Nat) (tokens : List Token) : Option (List Token) :=
  if first ≤ last ∧ last ≤ tokens.length then some (tokens.take first ++ tokens.drop last) else none

def collapseAt? (site : MatrixSite) (tokens : List Token) : Option (List Token) :=
  (setAt? (site.start + 2) ⟨.ident, "mat" ++ Text.decimal site.width⟩ tokens).bind
    (takeOut? (site.start + 5) (site.start + 8))

/-- All sites collapsed, the last one first, unless an edit is out of range. -/
def collapse? (body : Body) : Option Body := (body.matrixSites.foldrM collapseAt? body.tokens).map Body.mk

theorem collapseAt?_eq {site : MatrixSite} {tokens : List Token} (within : site.start + 8 ≤ tokens.length) :
    collapseAt? site tokens = some (collapseAt site tokens) := by
  have typed : site.start + 2 < tokens.length := by omega
  rw [collapseAt?, setAt?, if_pos typed, Option.bind_some, takeOut?, List.length_set,
    if_pos ⟨by omega, within⟩]
  rfl

/-! Edits leave what stands before them. -/

theorem le_length_collapseAt {site : MatrixSite} {tokens : List Token} {bound : Nat} (before : bound ≤ site.start)
    (within : bound ≤ tokens.length) : bound ≤ (collapseAt site tokens).length := by
  simp only [collapseAt, List.length_append, List.length_take, List.length_drop, List.length_set]
  omega

theorem le_length_foldr_collapseAt {sites : List MatrixSite} {tokens : List Token} {bound : Nat}
    (before : ∀ site ∈ sites, bound ≤ site.start) (within : bound ≤ tokens.length) :
    bound ≤ (sites.foldr collapseAt tokens).length := by
  induction sites with
  | nil => exact within
  | cons site rest ih =>
    have later := ih fun other member => before other (List.mem_cons_of_mem site member)
    exact le_length_collapseAt (before site List.mem_cons_self) later

theorem foldrM_collapseAt {sites : List MatrixSite} {tokens : List Token}
    (apart : sites.Pairwise fun earlier later => earlier.start + 9 ≤ later.start)
    (within : ∀ site ∈ sites, site.start + 9 ≤ tokens.length) :
    sites.foldrM collapseAt? tokens = some (sites.foldr collapseAt tokens) := by
  induction sites with
  | nil => rfl
  | cons site rest ih =>
    -- The sites after this one are collapsed already, and all of them start behind its nine tokens.
    obtain ⟨first, others⟩ := List.pairwise_cons.mp apart
    have later := ih others fun other member => within other (List.mem_cons_of_mem site member)
    have kept : site.start + 9 ≤ (rest.foldr collapseAt tokens).length :=
      le_length_foldr_collapseAt first (within site List.mem_cons_self)
    rw [List.foldrM_cons, later, List.foldr_cons]
    exact collapseAt?_eq (by omega)

/-! Where the sites are. -/

theorem matrixSiteAt?_eq_some {body : Body} {start : Nat} {site : MatrixSite}
    (found : body.matrixSiteAt? start = some site) : site.start = start ∧ start + 9 ≤ body.tokens.length := by
  rw [matrixSiteAt?_eq] at found
  obtain ⟨⟨side, name⟩, read, rfl⟩ := Option.map_eq_some_iff.mp found
  obtain ⟨_, _, _, _, _, _, _, _, _, rest, shape, _⟩ := leadingMatrix?_shape read
  have count := congrArg List.length shape
  simp only [List.length_drop, List.length_cons] at count
  refine ⟨rfl, ?_⟩
  omega

theorem matrixSites_within (body : Body) : ∀ site ∈ body.matrixSites, site.start + 9 ≤ body.tokens.length := by
  intro site member
  obtain ⟨start, _, found⟩ := List.mem_filterMap.mp member
  obtain ⟨same, within⟩ := matrixSiteAt?_eq_some found
  rwa [same]

theorem le_of_mem_lineOffsets {lines : List (List Token)} {start position : Nat}
    (member : position ∈ lineOffsets start lines) : start ≤ position := by
  induction lines generalizing start with
  | nil => cases member
  | cons line lines ih =>
    rcases List.mem_cons.mp member with here | later
    · omega
    · have bound := ih later
      omega

/-- The nine tokens of a site are on one line, so the next site starts after them. -/
theorem pairwise_sites_of_lines (before : List Token) {lines : List (List Token)} (areLines : AreLines lines) :
    ((lineOffsets before.length lines).filterMap (matrixSiteAt? ⟨before ++ lines.flatten⟩)).Pairwise
      fun earlier later => earlier.start + 9 ≤ later.start := by
  induction lines generalizing before with
  | nil => exact .nil
  | cons line lines ih =>
    have later := ih (before ++ line) areLines.tail
    rw [List.length_append, List.append_assoc] at later
    rw [lineOffsets, List.filterMap_cons, List.flatten_cons]
    cases found : matrixSiteAt? ⟨before ++ (line ++ lines.flatten)⟩ before.length with
    | none => exact later
    | some site =>
      refine List.pairwise_cons.mpr ⟨?_, later⟩
      intro other member
      have long : 9 ≤ line.length := by
        rw [matrixSiteAt?_eq, List.drop_left,
          readsKinds_leadingMatrix.append (by decide) areLines.closed_or_last] at found
        obtain ⟨⟨side, name⟩, read, _⟩ := Option.map_eq_some_iff.mp found
        obtain ⟨_, _, _, _, _, _, _, _, _, rest, rfl, _⟩ := leadingMatrix?_shape read
        simp
      obtain ⟨start, among, otherSite⟩ := List.mem_filterMap.mp member
      have first := (matrixSiteAt?_eq_some found).1
      have second := (matrixSiteAt?_eq_some otherSite).1
      have bound := le_of_mem_lineOffsets among
      omega

theorem matrixSites_apart (body : Body) :
    body.matrixSites.Pairwise fun earlier later => earlier.start + 9 ≤ later.start := by
  have lines := pairwise_sites_of_lines [] (areLines_tokenLines body.tokens)
  rw [List.nil_append, flatten_tokenLines] at lines
  rw [matrixSites, lineStarts_eq_offsets]
  exact lines

theorem collapse?_eq (body : Body) : body.collapse? = some body.collapse := by
  rw [collapse?, foldrM_collapseAt body.matrixSites_apart body.matrixSites_within]
  rfl

end Body

/-! Lines before and after. -/

/-- A line `uniform vecN NAME[N];`, whatever stands after the semicolon. -/
structure MatrixLine where
  gap : Token
  digits : Text
  space : Token
  name : Text
  length : Token
  rest : List Token
  side : Nat
  gapped : gap.kind = .space
  typed : Text.readWord? digits = some side
  spaced : space.kind = .space
  numeral : length.kind = .number
  counted : Text.readWord? length.text = some side
  square : 2 ≤ side ∧ side ≤ 4

namespace MatrixLine

def tokens (line : MatrixLine) : List Token :=
  ⟨.ident, "uniform"⟩ :: line.gap :: ⟨.ident, "vec" ++ line.digits⟩ :: line.space :: ⟨.ident, line.name⟩ ::
    ⟨.punct, ['[']⟩ :: line.length :: ⟨.punct, [']']⟩ :: ⟨.punct, [';']⟩ :: line.rest

def collapsed (line : MatrixLine) : List Token :=
  ⟨.ident, "uniform"⟩ :: line.gap :: ⟨.ident, "mat" ++ Text.decimal line.side⟩ :: line.space ::
    ⟨.ident, line.name⟩ :: ⟨.punct, [';']⟩ :: line.rest

theorem leadingMatrix?_tokens (line : MatrixLine) : leadingMatrix? line.tokens = some (line.side, line.name) := by
  have word : Text.after? "vec" ("vec".toList ++ line.digits) = some line.digits := Text.after?_eq_some.mpr rfl
  have typed : (Text.after? "vec" ("vec".toList ++ line.digits)).bind Text.readWord? = some line.side := by
    rw [word, Option.bind_some, line.typed]
  exact leadingMatrix?_of_shape line.rest (by decide) line.gapped ⟨rfl, typed⟩ line.spaced rfl (by decide)
    ⟨line.numeral, line.counted⟩ (by decide) (by decide) line.square

theorem collapseLine_tokens (line : MatrixLine) : collapseLine line.tokens = line.collapsed := by
  rw [collapseLine, leadingMatrix?_tokens]
  rfl

end MatrixLine

theorem exists_matrixLine {tokens : List Token} {side : Nat} {name : Text}
    (found : leadingMatrix? tokens = some (side, name)) :
    ∃ line : MatrixLine, tokens = line.tokens ∧ line.name = name := by
  obtain ⟨qualifier, gap, type, space, ident, opening, length, closing, semicolon, rest, shape, uniform, gapped,
    ⟨typed, width⟩, spaced, ⟨named, same⟩, opens, ⟨numeral, counted⟩, closes, ends, square⟩ :=
    leadingMatrix?_shape found
  obtain ⟨digits, word, read⟩ := Option.bind_eq_some_iff.mp width
  refine ⟨⟨gap, digits, space, name, length, rest, side, gapped, read, spaced, numeral, counted, square⟩, ?_, rfl⟩
  have vector : type = ⟨.ident, "vec" ++ digits⟩ := by
    rw [← Text.after?_eq_some.mp word, ← typed]
  have declared : ident = ⟨.ident, name⟩ := by
    rw [← same, ← named]
  rw [shape, (Token.isIdent_iff _ _).mp uniform, vector, declared, (Token.isPunct_iff _ _).mp opens,
    (Token.isPunct_iff _ _).mp closes, (Token.isPunct_iff _ _).mp ends]
  rfl

inductive CollapsesLines : List (List Token) → List (List Token) → List Text → Prop where
  | nil : CollapsesLines [] [] []
  | matrix (line : MatrixLine) {lines results : List (List Token)} {names : List Text}
      (later : CollapsesLines lines results names) :
      CollapsesLines (line.tokens :: lines) (line.collapsed :: results) (line.name :: names)
  | other {line : List Token} (kept : ∀ matrix : MatrixLine, line ≠ matrix.tokens)
      {lines results : List (List Token)} {names : List Text} (later : CollapsesLines lines results names) :
      CollapsesLines (line :: lines) (line :: results) names

theorem collapsesLines (lines : List (List Token)) :
    CollapsesLines lines (lines.map collapseLine) ((lines.filterMap leadingMatrix?).map Prod.snd) := by
  induction lines with
  | nil => exact .nil
  | cons line lines ih =>
    cases found : leadingMatrix? line with
    | none =>
      have kept : ∀ matrix : MatrixLine, line ≠ matrix.tokens := by
        intro matrix same
        rw [same, matrix.leadingMatrix?_tokens] at found
        cases found
      rw [List.map_cons, List.filterMap_cons_none found, collapseLine, found]
      exact .other kept ih
    | some read =>
      obtain ⟨side, name⟩ := read
      obtain ⟨matrix, shape, named⟩ := exists_matrixLine found
      rw [List.map_cons, List.filterMap_cons_some found, List.map_cons, shape, matrix.collapseLine_tokens, ← named]
      exact .matrix matrix ih

/-- Whatever the tokens of a body are, collapsing makes no edit out of range, rewrites the lines that stand
for a matrix, gives their names in order and leaves nothing to collapse. -/
theorem Body.collapse_by_lines (body : Body) :
    body.collapse? = some body.collapse ∧
      CollapsesLines (tokenLines body.tokens) (tokenLines body.collapse.tokens) body.collapsedNames ∧
      body.collapse.collapsedNames = [] ∧ body.collapse.collapse = body.collapse := by
  have free := matrixFree_collapse body.tokens
  refine ⟨body.collapse?_eq, ?_, free.collapsedNames_eq_nil, free.collapse_eq_self⟩
  rw [tokenLines_collapse, body.collapsedNames_eq_lines]
  exact collapsesLines (tokenLines body.tokens)

example :
    (Body.collapse (.ofText "uniform vec4 w[04]; w[4];\nuniform vec4 v[3];\n")).text =
        "uniform mat4 w; w[4];\nuniform vec4 v[3];\n" ∧
      (Body.ofText "uniform vec4 w[04]; w[4];\nuniform vec4 v[3];\n").collapsedNames = ["w".toList] := by
  decide +kernel

end ShaderPair
