import ShaderPair.Proofs.OnePass
import ShaderPair.Proofs.RestoredNames

/-! Names as they are written. An identifier gets its restored name, a vector type may become a matrix type,
and a built-in name makes way for one that is synthesized. The names put in are fixed and nothing keeps other
names off them, so different identifiers can come to be written alike. The main statement says when. -/

namespace ShaderPair.Restoration

def synthesizedNames : List (Text × Text) := builtinInputs ++ [(clipPosition, clipTemporary)]

def pieces (symbols : SymbolMap) (text : Text) : List Text :=
  (restoredTokens symbols (.ofText text)).zipIdx.map (writtenAt (restoredTokens symbols (.ofText text)))

/-- The name that an identifier has once the names are restored and the matrices collapsed. -/
def settledName (symbols : SymbolMap) (text : Text) (position : Nat) (name : Text) : Text :=
  match matrixType? (restoredTokens symbols (.ofText text)) position with
  | some side => "mat" ++ Text.decimal side
  | none => restoredName symbols (.ofText text) name

/-- Two names that are the same, or of which one is put in the place of the other. -/
def Meet (first second : Text) : Prop :=
  first = second ∨ (first, second) ∈ synthesizedNames ∨ (second, first) ∈ synthesizedNames

instance (first second : Text) : Decidable (Meet first second) := inferInstanceAs (Decidable (_ ∨ _ ∨ _))

theorem mem_synthesizedNames {name : Text} (changed : builtinName name ≠ name) :
    (name, builtinName name) ∈ synthesizedNames := by
  by_cases clip : name = clipPosition
  · subst clip
    decide
  · rw [← builtinInputs_get name clip] at changed ⊢
    cases held : (Table.ofPairs builtinInputs).get? name with
    | none =>
      rw [held] at changed
      exact absurd rfl changed
    | some given => exact List.mem_append_left _ (Table.mem_of_get?_ofPairs held)

theorem builtinName_eq_self {name : Text} (absent : ∀ pair ∈ synthesizedNames, name ≠ pair.1) :
    builtinName name = name := by
  apply Classical.byContradiction
  intro changed
  exact absent _ (mem_synthesizedNames changed) rfl

theorem builtinName_synthesized :
    ∀ pair ∈ synthesizedNames, builtinName pair.1 = pair.2 ∧ builtinName pair.2 = pair.2 := by
  decide

theorem builtinName_eq_iff (first second : Text) : builtinName first = builtinName second ↔ Meet first second := by
  constructor
  · intro same
    by_cases keptFirst : builtinName first = first
    · by_cases keptSecond : builtinName second = second
      · exact .inl (keptFirst.symm.trans (same.trans keptSecond))
      · have pair := mem_synthesizedNames keptSecond
        rw [← same, keptFirst] at pair
        exact .inr (.inr pair)
    · have pair := mem_synthesizedNames keptFirst
      by_cases keptSecond : builtinName second = second
      · rw [same, keptSecond] at pair
        exact .inr (.inl pair)
      · have apart : ∀ one ∈ synthesizedNames, ∀ other ∈ synthesizedNames, one.2 = other.2 → one.1 = other.1 := by
          decide
        exact .inl (apart _ pair _ (mem_synthesizedNames keptSecond) same)
  · rintro (rfl | pair | pair)
    · rfl
    · have names := builtinName_synthesized _ pair
      exact names.1.trans names.2.symm
    · have names := builtinName_synthesized _ pair
      exact names.2.trans names.1.symm

theorem isPunct_of_clipEnd {tokens : List Token} {ending : Nat} (found : clipEnd? tokens = some ending) :
    ∃ token, tokens[ending]? = some token ∧ token.isPunct ';' = true := by
  obtain ⟨clip, _, rest⟩ := Option.bind_eq_some_iff.mp found
  obtain ⟨gap, semicolon, same⟩ := Option.bind_eq_some_iff.mp rest
  obtain ⟨bound, ends, _⟩ := List.findIdx?_eq_some_iff_getElem.mp semicolon
  refine ⟨(tokens.drop (clip + 1))[gap], ?_, ends⟩
  have place : clip + 1 + gap = ending := Option.some.inj same
  rw [← place, ← List.getElem?_drop, List.getElem?_eq_getElem bound]

theorem getElem?_restoredTokens (symbols : SymbolMap) {text : Text} {position : Nat} {name : Text}
    (held : (tokenize text)[position]? = some ⟨.ident, name⟩) :
    (restoredTokens symbols (.ofText text))[position]? =
      some ⟨.ident, restoredName symbols (.ofText text) name⟩ := by
  rw [restoredTokens, List.getElem?_map]
  change ((tokenize text)[position]?).map _ = _
  rw [held]
  rfl

theorem pieces_ident (symbols : SymbolMap) {text : Text} {position : Nat} {name : Text}
    (held : (tokenize text)[position]? = some ⟨.ident, name⟩) :
    (pieces symbols text)[position]? = some (builtinName (settledName symbols text position name)) := by
  have restored := getElem?_restoredTokens symbols held
  unfold pieces settledName
  generalize restoredTokens symbols (.ofText text) = tokens at restored ⊢
  generalize restoredName symbols (.ofText text) name = name at restored ⊢
  have member : (⟨.ident, name⟩, position) ∈ tokens.zipIdx := List.mk_mem_zipIdx_iff_getElem?.mpr restored
  -- Neither the recombination nor a dropped subscript can be where an identifier is.
  have unended : clipEnd? tokens ≠ some position := by
    intro found
    obtain ⟨token, here, ends⟩ := isPunct_of_clipEnd found
    rw [restored] at here
    cases here
    cases ends
  have outside : inSubscript tokens position = false := by
    cases inside : inSubscript tokens position with
    | false => rfl
    | true => exact absurd rfl (inSubscript_other member inside).1
  rw [List.getElem?_map, List.getElem?_zipIdx, restored, Option.map_some, Option.map_some, Nat.zero_add, writtenAt,
    if_neg unended, List.append_nil, tokenText, outside]
  cases typed : matrixType? tokens position with
  | none => rfl
  | some side =>
    have matrix : builtinName ("mat" ++ Text.decimal side) = "mat" ++ Text.decimal side := by
      apply builtinName_eq_self
      intro pair listed same
      have none : ∀ pair ∈ synthesizedNames, Text.startsWith "mat" pair.1 = false := by decide
      have other := none pair listed
      rw [← same] at other
      exact absurd other (by simp [Text.startsWith])
    exact congrArg some matrix.symm

theorem settledName_eq (symbols : SymbolMap) {text : Text} {position : Nat} {name : Text}
    (held : (tokenize text)[position]? = some ⟨.ident, name⟩)
    (other : Text.startsWith "vec" (restoredName symbols (.ofText text) name) = false) :
    settledName symbols text position name = restoredName symbols (.ofText text) name := by
  have restored := getElem?_restoredTokens symbols held
  unfold settledName
  cases typed : matrixType? (restoredTokens symbols (.ofText text)) position with
  | none => rfl
  | some side =>
    have vector := (matrixType?_ident (List.mk_mem_zipIdx_iff_getElem?.mpr restored) typed).2
    rw [other] at vector
    cases vector

theorem body_eq_pieces {symbols : SymbolMap} {text : Text} {restored : Restored}
    (succeeds : restoreBody symbols text = .ok restored) : restored.body = (pieces symbols text).flatten := by
  obtain ⟨_, finished⟩ := restoreBody_eq_ok.mp succeeds
  rw [(finishBody_eq_onePass finished).1, pieces, ← List.flatMap_def]
  rfl

/-! The passes that put names in. Each introduces names that no pass before it does. -/

/-- The body that is left when the first so many built-in inputs have been looked at. -/
def bodyAfter (tokens : List Token) (count : Nat) : Body :=
  ((builtinInputs.take count).foldl declareInput ⟨[], Body.collapse ⟨tokens⟩⟩).body

/-- The declarations that the next pass adds, with their names: that of an input, and after the inputs those of
the clip position. -/
def introduced (count : Nat) : List (Text × Text) :=
  match builtinInputs[count]? with
  | some input => [(inputDeclaration input, input.2)]
  | none => clipDeclarations.zip [clipTemporary, "dx_clipping"]

theorem introduced_apart {count : Nat} {added : Text × Text} (next : added ∈ introduced count) :
    Untyped added.2 ∧ ∀ input ∈ builtinInputs.take count, added.2 ≠ input.1 ∧ added.2 ≠ input.2 := by
  by_cases early : count < 9
  · have all : ∀ count < 9, ∀ added ∈ introduced count,
        Untyped added.2 ∧ ∀ input ∈ builtinInputs.take count, added.2 ≠ input.1 ∧ added.2 ≠ input.2 := by decide
    exact all count early added next
  · have length : builtinInputs.length = 9 := by decide
    have all : ∀ added ∈ introduced 9,
        Untyped added.2 ∧ ∀ input ∈ builtinInputs, added.2 ≠ input.1 ∧ added.2 ≠ input.2 := by decide
    have last : introduced count = introduced 9 := by
      rw [introduced, introduced, List.getElem?_eq_none (by omega), List.getElem?_eq_none (by omega)]
    rw [List.take_of_length_le (by omega)]
    exact all added (last ▸ next)

/-- Before the pass that declares it, a synthesized name is where it already was in the restored body. -/
theorem mentions_introduced (tokens : List Token) {count : Nat} {added : Text × Text}
    (next : added ∈ introduced count) :
    (bodyAfter tokens count).mentions added.2 = tokens.any (·.isIdent added.2) := by
  obtain ⟨untyped, apart⟩ := introduced_apart next
  have separated : Separated (builtinInputs.take count) :=
    List.Pairwise.sublist (List.take_sublist count builtinInputs) separated_builtinInputs
  rw [bodyAfter, foldl_declareInput _ _ separated]
  exact mentions_renamed tokens untyped apart

/-! Identifiers that come to be written alike. -/

def KeptApart (symbols : SymbolMap) (text : Text) : Prop :=
  ∀ (i j : Nat) (first second : Text), (tokenize text)[i]? = some ⟨.ident, first⟩ →
    (tokenize text)[j]? = some ⟨.ident, second⟩ → first ≠ second → (pieces symbols text)[i]? ≠ (pieces symbols text)[j]?

/-- No name that is declared for a body is used in it before the pass that declares it. -/
def DeclaredFresh (symbols : SymbolMap) (text : Text) (declarations : List Text) : Prop :=
  ∀ count, ∀ added ∈ introduced count, added.1 ∈ declarations →
    (bodyAfter (restoredTokens symbols (.ofText text)) count).mentions added.2 = false

def sharedPosition : Text := "vec4 position = gl_Vertex;"

theorem sharedPosition_captured :
    restoreBody .empty sharedPosition = .ok ⟨["attribute vec4 position;"], "vec4 position = position;"⟩ ∧
      ¬KeptApart .empty sharedPosition ∧ ¬DeclaredFresh .empty sharedPosition ["attribute vec4 position;"] := by
  refine ⟨by decide +kernel, ?_, ?_⟩
  · intro apart
    have merged : (pieces .empty sharedPosition)[2]? = (pieces .empty sharedPosition)[6]? := by decide +kernel
    exact apart 2 6 "position" "gl_Vertex" (by decide +kernel) (by decide +kernel) (by decide) merged
  · intro fresh
    have used : (bodyAfter (restoredTokens .empty (.ofText sharedPosition)) 0).mentions "position" = true := by
      decide +kernel
    have unused := fresh 0 ("attribute vec4 position;", "position") (by decide) (by decide)
    rw [used] at unused
    cases unused

/-- Two identifiers of a restored body are written alike exactly when they have got one name before anything is
synthesized, or when one is a built-in name and the other the name put in its place. A synthesized name is used
before it is declared exactly when it is in the restored body. -/
theorem restoreBody_names_meet {symbols : SymbolMap} {text : Text} {restored : Restored}
    (succeeds : restoreBody symbols text = .ok restored) :
    restored.body = (pieces symbols text).flatten ∧
      (∀ (i j : Nat) (first second : Text), (tokenize text)[i]? = some ⟨.ident, first⟩ →
        (tokenize text)[j]? = some ⟨.ident, second⟩ →
        ((pieces symbols text)[i]? = (pieces symbols text)[j]? ↔
          Meet (settledName symbols text i first) (settledName symbols text j second))) ∧
      ∀ count, ∀ added ∈ introduced count,
        (bodyAfter (restoredTokens symbols (.ofText text)) count).mentions added.2 =
          (restoredTokens symbols (.ofText text)).any (·.isIdent added.2) := by
  refine ⟨body_eq_pieces succeeds, ?_, fun count added next => mentions_introduced _ next⟩
  intro i j first second heldFirst heldSecond
  rw [pieces_ident symbols heldFirst, pieces_ident symbols heldSecond, Option.some.injEq, builtinName_eq_iff]

def sharedMatrix : Text := "uniform vec4 _w[4];\nmat4 _m;"

def sharedMatrixSymbols : SymbolMap := .ofPairs [("_w", ⟨"world", .semantic⟩)]

theorem restoreBody_names_meet_sharedMatrix :
    restoreBody sharedMatrixSymbols sharedMatrix = .ok ⟨[], "uniform mat4 world;\nmat4 _m;"⟩ ∧
      (pieces sharedMatrixSymbols sharedMatrix)[2]? = (pieces sharedMatrixSymbols sharedMatrix)[10]? ∧
      (pieces sharedMatrixSymbols sharedMatrix)[4]? ≠ (pieces sharedMatrixSymbols sharedMatrix)[12]? := by
  have succeeds : restoreBody sharedMatrixSymbols sharedMatrix = .ok ⟨[], "uniform mat4 world;\nmat4 _m;"⟩ := by
    decide +kernel
  obtain ⟨_, meet, _⟩ := restoreBody_names_meet succeeds
  have types := meet 2 10 "vec4" "mat4" (by decide +kernel) (by decide +kernel)
  have names := meet 4 12 "_w" "_m" (by decide +kernel) (by decide +kernel)
  exact ⟨succeeds, types.mpr (by decide +kernel), fun same => absurd (names.mp same) (by decide +kernel)⟩

end ShaderPair.Restoration
