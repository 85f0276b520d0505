import ShaderPair.Proofs.BuiltinInputs
import ShaderPair.Proofs.ClipPosition
import ShaderPair.Proofs.MatrixPositions

/-! Restoration in one pass. The steps after the renaming each edit the tokens and move the positions
that the next one sees. Here what becomes of a token is said from the restored tokens and its position
among them, and the main statement says that the steps together write exactly that. -/

namespace ShaderPair.Restoration

def builtinName (name : Text) : Text :=
  if name = "gl_Vertex" then "position"
  else if name = clipPosition then clipTemporary
  else match (List.range 8).find? fun unit => name == "gl_MultiTexCoord" ++ Text.decimal unit with
    | some unit => "texCoord" ++ Text.decimal unit
    | none => name

def clipEnd? (tokens : List Token) : Option Nat := do
  let clip ← tokens.findIdx? (·.isIdent clipPosition)
  let gap ← (tokens.drop (clip + 1)).findIdx? (·.isPunct ';')
  return clip + 1 + gap

/-- What a token is written as, by its position among all tokens. -/
def tokenText (tokens : List Token) (item : Token × Nat) : Text :=
  match matrixType? tokens item.2 with
  | some side => "mat" ++ Text.decimal side
  | none =>
    if inSubscript tokens item.2 then []
    else if item.1.kind = .ident then builtinName item.1.text
    else item.1.text

/-- The recombination goes right after the semicolon that ends the clip statement. -/
def writtenAt (tokens : List Token) (item : Token × Nat) : Text :=
  tokenText tokens item ++ if clipEnd? tokens = some item.2 then clipRecombination else []

def onePass (tokens : List Token) : Text := tokens.zipIdx.flatMap (writtenAt tokens)

def neededDeclarations (tokens : List Token) : List Text :=
  (builtinInputs.filter fun input => tokens.any (·.isIdent input.1)).map inputDeclaration ++
    if tokens.any (·.isIdent clipPosition) then clipDeclarations else []

/-- A token after the matrices are collapsed and the built-in inputs are renamed. -/
def inputsNamed? (tokens : List Token) (item : Token × Nat) : Option Token :=
  (collapsed? tokens item).map (Token.rename (.ofPairs builtinInputs))

theorem builtinInputs_get (name : Text) (other : name ≠ clipPosition) :
    ((Table.ofPairs builtinInputs).get? name).getD name = builtinName name := by
  by_cases listed : name ∈ builtinInputs.map Prod.fst
  · have all : ∀ key ∈ builtinInputs.map Prod.fst,
        ((Table.ofPairs builtinInputs).get? key).getD key = builtinName key := by decide
    exact all name listed
  · rw [Table.get?_ofPairs_eq_none listed]
    have vertex : name ≠ "gl_Vertex" := by
      rintro rfl
      exact listed (by decide)
    have units : ((List.range 8).find? fun unit => name == "gl_MultiTexCoord" ++ Text.decimal unit) = none := by
      rw [List.find?_eq_none]
      intro unit member same
      refine listed (List.mem_map.mpr ⟨(name, "texCoord" ++ Text.decimal unit), ?_, rfl⟩)
      rw [eq_of_beq same]
      exact List.mem_cons_of_mem _ (List.mem_map.mpr ⟨unit, member, rfl⟩)
    unfold builtinName
    rw [if_neg vertex, if_neg other, units]
    rfl

theorem untyped_clipPosition : Untyped clipPosition := by decide

theorem isPunct_rename (names : Table Text) (token : Token) (c : Char) :
    (token.rename names).isPunct c = token.isPunct c := by
  by_cases word : token.kind = .ident
  · have kept := Token.rename_kind names token
    simp only [Token.isPunct, kept, word]
    rfl
  · rw [Token.rename_of_ne_ident names word]

theorem isIdent_inputsNamed {tokens : List Token} {item : Token × Nat} (member : item ∈ tokens.zipIdx) {name : Text}
    (untyped : Untyped name) (apart : ∀ input ∈ builtinInputs, name ≠ input.1 ∧ name ≠ input.2) :
    (inputsNamed? tokens item).any (·.isIdent name) = item.1.isIdent name := by
  rw [← isIdent_collapsed member untyped, inputsNamed?]
  cases collapsed? tokens item with
  | none => rfl
  | some token => exact Token.isIdent_rename apart token

theorem isPunct_inputsNamed {tokens : List Token} {item : Token × Nat} (member : item ∈ tokens.zipIdx) :
    (inputsNamed? tokens item).any (·.isPunct ';') = item.1.isPunct ';' := by
  rw [← isPunct_collapsed member, inputsNamed?]
  cases collapsed? tokens item with
  | none => rfl
  | some token => exact isPunct_rename _ token ';'

theorem tokenText_eq {tokens : List Token} {item : Token × Nat} (other : item.1.isIdent clipPosition = false) :
    tokenText tokens item = ((inputsNamed? tokens item).map Token.text).getD [] := by
  unfold tokenText inputsNamed? collapsed?
  cases typed : matrixType? tokens item.2 with
  | some side =>
    have absent : (Table.ofPairs builtinInputs).get? ("mat" ++ Text.decimal side) = none := by
      apply Table.get?_ofPairs_eq_none
      intro listed
      have none : ∀ key ∈ builtinInputs.map Prod.fst, Text.startsWith "mat" key = false := by decide
      exact absurd (none _ listed) (by simp [Text.startsWith])
    rw [Option.map_some, Token.rename_ident, absent]
    rfl
  | none =>
    cases inside : inSubscript tokens item.2 with
    | true => rfl
    | false =>
      obtain ⟨⟨kind, text⟩, position⟩ := item
      by_cases word : kind = .ident
      · subst word
        have differs : text ≠ clipPosition := by simpa [Token.isIdent] using other
        simp [Token.rename_ident, builtinInputs_get text differs]
      · have plain : (⟨kind, text⟩ : Token).kind ≠ .ident := word
        simp [Token.rename_of_ne_ident _ plain, word]

theorem any_filterMap_items {items : List (Token × Nat)} {change : Token × Nat → Option Token}
    {test : Token → Bool} (agrees : ∀ item ∈ items, (change item).any test = test item.1) :
    (items.filterMap change).any test = (items.map Prod.fst).any test := by
  induction items with
  | nil => rfl
  | cons item rest ih =>
    have first := agrees item List.mem_cons_self
    have later := ih fun other member => agrees other (List.mem_cons_of_mem _ member)
    rw [List.map_cons, List.any_cons, ← later, ← first, List.filterMap_cons]
    cases change item with
    | none => simp
    | some token => simp

/-- A token that is left comes from one position, and the tokens around it from those around that. -/
theorem filterMap_zipIdx_split {part : List Token} {start : Nat} {change : Token × Nat → Option Token}
    {front back : List Token} {hit : Token} (same : (part.zipIdx start).filterMap change = front ++ hit :: back) :
    ∃ early token late, part = early ++ token :: late ∧ (early.zipIdx start).filterMap change = front ∧
      change (token, start + early.length) = some hit ∧
      (late.zipIdx (start + early.length + 1)).filterMap change = back := by
  obtain ⟨items, _, whole, kept, rest⟩ := List.filterMap_eq_append_iff.mp same
  obtain ⟨dropped, item, after, rfl, gone, held, last⟩ := List.filterMap_eq_cons_iff.mp rest
  rw [← List.append_assoc] at whole
  obtain ⟨early, _, rfl, front, later⟩ := List.zipIdx_eq_append_iff.mp whole
  obtain ⟨token, late, rfl, rfl, rfl⟩ := List.zipIdx_eq_cons_iff.mp later.symm
  refine ⟨early, token, late, rfl, ?_, held, last⟩
  rw [← front, List.filterMap_append, kept, List.filterMap_eq_nil_iff.mpr gone, List.append_nil]

theorem flatMap_eq_render {items : List (Token × Nat)} {change : Token × Nat → Option Token}
    {write : Token × Nat → Text} (agrees : ∀ item ∈ items, write item = ((change item).map Token.text).getD []) :
    items.flatMap write = render (items.filterMap change) := by
  induction items with
  | nil => rfl
  | cons item rest ih =>
    have first := agrees item List.mem_cons_self
    have later := ih fun other member => agrees other (List.mem_cons_of_mem _ member)
    rw [List.flatMap_cons, later, first, List.filterMap_cons]
    cases change item with
    | none => rfl
    | some token => exact (render_cons token _).symm

theorem mentions_collapse (tokens : List Token) {name : Text} (untyped : Untyped name) :
    (Body.collapse ⟨tokens⟩).mentions name = tokens.any (·.isIdent name) := by
  have same : (tokens.zipIdx.filterMap (collapsed? tokens)).any (·.isIdent name) =
      (tokens.zipIdx.map Prod.fst).any (·.isIdent name) :=
    any_filterMap_items fun item member => isIdent_collapsed member untyped
  rw [List.zipIdx_map_fst] at same
  rw [Body.mentions, collapse_eq_positions, same]

theorem mentions_renamed (tokens : List Token) {pairs : List (Text × Text)} {name : Text} (untyped : Untyped name)
    (apart : ∀ pair ∈ pairs, name ≠ pair.1 ∧ name ≠ pair.2) :
    ((Body.collapse ⟨tokens⟩).rename (.ofPairs pairs)).mentions name = tokens.any (·.isIdent name) := by
  rw [← mentions_collapse tokens untyped]
  simp only [Body.mentions, Body.rename, List.any_map]
  congr 1
  funext token
  exact Token.isIdent_rename apart token

theorem foldl_builtinInputs (tokens : List Token) :
    builtinInputs.foldl declareInput ⟨[], Body.collapse ⟨tokens⟩⟩ =
      ⟨(builtinInputs.filter fun input => tokens.any (·.isIdent input.1)).map inputDeclaration,
        ⟨tokens.zipIdx.filterMap (inputsNamed? tokens)⟩⟩ := by
  have untyped : ∀ input ∈ builtinInputs, Untyped input.1 := by decide
  have mentioned : ∀ input ∈ builtinInputs,
      (Body.collapse ⟨tokens⟩).mentions input.1 = tokens.any (·.isIdent input.1) :=
    fun input listed => mentions_collapse tokens (untyped input listed)
  rw [foldl_declareInput _ _ separated_builtinInputs, List.filter_congr mentioned, Body.rename,
    collapse_eq_positions, List.map_filterMap]
  rfl

theorem clipEnd?_append (front middle back : List Token) (hit last : Token)
    (before : ∀ token ∈ front, token.isIdent clipPosition = false) (clip : hit.isIdent clipPosition = true)
    (between : ∀ token ∈ middle, token.isPunct ';' = false) (ends : last.isPunct ';' = true) :
    clipEnd? (front ++ hit :: (middle ++ last :: back)) = some (front.length + 1 + middle.length) := by
  have rest : (front ++ hit :: (middle ++ last :: back)).drop (front.length + 1) = middle ++ last :: back := by
    rw [← List.drop_drop, List.drop_left, List.drop_one, List.tail_cons]
  unfold clipEnd?
  rw [findIdx?_append_cons _ before clip]
  simp only [Option.bind_eq_bind, Option.bind_some, rest]
  rw [findIdx?_append_cons back between ends]
  rfl

theorem apart_clipPosition : ∀ input ∈ builtinInputs, clipPosition ≠ input.1 ∧ clipPosition ≠ input.2 := by
  decide

theorem isIdent_clip {tokens : List Token} {item : Token × Nat} (member : item ∈ tokens.zipIdx) :
    (inputsNamed? tokens item).any (·.isIdent clipPosition) = item.1.isIdent clipPosition :=
  isIdent_inputsNamed member untyped_clipPosition apart_clipPosition

theorem unmarked_of_filterMap (part : List Token) (start : Nat) {change : Token × Nat → Option Token}
    {test : Token → Bool} (agrees : ∀ item ∈ part.zipIdx start, (change item).any test = test item.1)
    (absent : ∀ token ∈ (part.zipIdx start).filterMap change, test token = false) :
    ∀ token ∈ part, test token = false := by
  intro token member
  rw [← List.zipIdx_map_fst start part] at member
  obtain ⟨item, among, rfl⟩ := List.mem_map.mp member
  rw [← agrees item among]
  cases held : change item with
  | none => rfl
  | some left => exact absent left (List.mem_filterMap.mpr ⟨item, among, held⟩)

theorem onePass_of_no_clip {tokens : List Token}
    (absent : ∀ token ∈ tokens.zipIdx.filterMap (inputsNamed? tokens), token.isIdent clipPosition = false) :
    onePass tokens = render (tokens.zipIdx.filterMap (inputsNamed? tokens)) ∧
      clipEnd? tokens = none ∧ tokens.any (·.isIdent clipPosition) = false := by
  have unused : ∀ token ∈ tokens, token.isIdent clipPosition = false :=
    unmarked_of_filterMap tokens 0 (fun item member => isIdent_clip member) absent
  have missing : tokens.findIdx? (·.isIdent clipPosition) = none := by simpa using unused
  have endless : clipEnd? tokens = none := by
    unfold clipEnd?
    rw [missing]
    rfl
  refine ⟨flatMap_eq_render ?_, endless, by simpa using unused⟩
  intro item member
  rw [writtenAt, endless, if_neg nofun, List.append_nil,
    tokenText_eq (unused item.1 (List.fst_mem_of_mem_zipIdx member))]

theorem tokenText_clip {tokens : List Token} {item : Token × Nat} (member : item ∈ tokens.zipIdx)
    (clip : item.1.isIdent clipPosition = true) : tokenText tokens item = clipTemporary := by
  have word := (Token.isIdent_iff _ _).mp clip
  unfold tokenText
  cases typed : matrixType? tokens item.2 with
  | some side =>
    have vector := (matrixType?_ident member typed).2
    rw [word] at vector
    exact absurd vector (by decide)
  | none =>
    cases inside : inSubscript tokens item.2 with
    | true => exact absurd (congrArg Token.kind word) (inSubscript_other member inside).1
    | false =>
      rw [word]
      decide

theorem writtenAt_elsewhere {tokens : List Token} {ending : Nat} (found : clipEnd? tokens = some ending)
    {item : Token × Nat} (elsewhere : item.2 ≠ ending) : writtenAt tokens item = tokenText tokens item := by
  rw [writtenAt, found, if_neg (fun equal => elsewhere (Option.some.inj equal).symm), List.append_nil]

theorem flatMap_writtenAt {tokens : List Token} {ending : Nat} (found : clipEnd? tokens = some ending)
    (part : List Token) (start : Nat) (elsewhere : ∀ item ∈ part.zipIdx start, item.2 ≠ ending)
    (unmarked : ∀ token ∈ part, token.isIdent clipPosition = false) :
    (part.zipIdx start).flatMap (writtenAt tokens) =
      render ((part.zipIdx start).filterMap (inputsNamed? tokens)) := by
  apply flatMap_eq_render
  intro item member
  rw [writtenAt_elsewhere found (elsewhere item member),
    tokenText_eq (unmarked item.1 (List.fst_mem_of_mem_zipIdx member))]

theorem onePass_append {early inner late : List Token} {clip last : Token}
    (before : ∀ token ∈ early, token.isIdent clipPosition = false) (isClip : clip.isIdent clipPosition = true)
    (inside : ∀ token ∈ inner, token.isIdent clipPosition = false)
    (between : ∀ token ∈ inner, token.isPunct ';' = false) (ends : last.isPunct ';' = true)
    (after : ∀ token ∈ late, token.isIdent clipPosition = false) (tokens : List Token)
    (same : tokens = early ++ clip :: (inner ++ last :: late)) :
    onePass tokens =
      render (early.zipIdx.filterMap (inputsNamed? tokens)) ++ (clipTemporary ++
        (render ((inner.zipIdx (early.length + 1)).filterMap (inputsNamed? tokens)) ++
          (tokenText tokens (last, early.length + 1 + inner.length) ++ (clipRecombination ++
            render ((late.zipIdx (early.length + 1 + inner.length + 1)).filterMap (inputsNamed? tokens)))))) := by
  have ending : clipEnd? tokens = some (early.length + 1 + inner.length) := by
    rw [same]
    exact clipEnd?_append early inner late clip last before isClip between ends
  have place : (clip, early.length) ∈ tokens.zipIdx := by
    rw [same, List.mk_mem_zipIdx_iff_getElem?]
    simp
  have first := flatMap_writtenAt ending early 0
    (fun item member => by have below := List.snd_lt_of_mem_zipIdx member; omega) before
  have second := flatMap_writtenAt ending inner (early.length + 1)
    (fun item member => by have below := List.snd_lt_of_mem_zipIdx member; omega) inside
  have third := flatMap_writtenAt ending late (early.length + 1 + inner.length + 1)
    (fun item member => by have above := List.le_snd_of_mem_zipIdx member; omega) after
  have items : tokens.zipIdx = early.zipIdx ++ (clip, early.length) :: (inner.zipIdx (early.length + 1) ++
      (last, early.length + 1 + inner.length) :: late.zipIdx (early.length + 1 + inner.length + 1)) := by
    rw [same]
    simp [List.zipIdx_append]
  rw [onePass, items, List.flatMap_append, List.flatMap_cons, List.flatMap_append, List.flatMap_cons, first,
    second, third, writtenAt_elsewhere ending (by simp only; omega), tokenText_clip place isClip, writtenAt, ending,
    if_pos rfl, List.append_assoc]

theorem onePass_of_clip {tokens front middle back : List Token} {hit last : Token}
    (same : tokens.zipIdx.filterMap (inputsNamed? tokens) = front ++ hit :: (middle ++ last :: back))
    (before : ∀ token ∈ front, token.isIdent clipPosition = false) (clip : hit.isIdent clipPosition = true)
    (after : ∀ token ∈ middle ++ last :: back, token.isIdent clipPosition = false)
    (between : ∀ token ∈ middle, token.isPunct ';' = false) (ends : last.isPunct ';' = true) :
    onePass tokens =
      render (front ++ ⟨.ident, clipTemporary⟩ :: (middle ++ last :: (tokenize clipRecombination ++ back))) ∧
      tokens.countP (·.isIdent clipPosition) = 1 ∧ (clipEnd? tokens).isSome = true := by
  obtain ⟨early, clipToken, _, shape, keptFront, heldHit, keptRest⟩ := filterMap_zipIdx_split same
  obtain ⟨inner, lastToken, late, rfl, keptMiddle, heldLast, keptBack⟩ := filterMap_zipIdx_split keptRest
  rw [Nat.zero_add] at heldHit heldLast keptMiddle keptBack
  have among : ∀ item ∈ early.zipIdx ++ (clipToken, early.length) :: (inner.zipIdx (early.length + 1) ++
      (lastToken, early.length + 1 + inner.length) :: late.zipIdx (early.length + 1 + inner.length + 1)),
      item ∈ tokens.zipIdx := by
    intro item member
    rw [shape]
    simpa [List.zipIdx_append] using member
  have isClip : clipToken.isIdent clipPosition = true := by
    rw [← isIdent_clip (among (clipToken, early.length) (by simp)), heldHit]
    exact clip
  have isLast : lastToken.isPunct ';' = true := by
    rw [← isPunct_inputsNamed (among (lastToken, early.length + 1 + inner.length) (by simp)), heldLast]
    exact ends
  have unmarkedEarly := unmarked_of_filterMap early 0
    (fun item member => isIdent_clip (among item (by simp [member]))) (keptFront ▸ before)
  have unmarkedInner := unmarked_of_filterMap inner (early.length + 1)
    (fun item member => isIdent_clip (among item (by simp [member])))
    (fun token member => after token (List.mem_append_left _ (keptMiddle ▸ member)))
  have unendedInner := unmarked_of_filterMap inner (early.length + 1)
    (fun item member => isPunct_inputsNamed (among item (by simp [member]))) (keptMiddle ▸ between)
  have unmarkedLate := unmarked_of_filterMap late (early.length + 1 + inner.length + 1)
    (fun item member => isIdent_clip (among item (by simp [member])))
    (fun token member => after token (List.mem_append_right _ (List.mem_cons_of_mem _ (keptBack ▸ member))))
  have unmarkedLast : lastToken.isIdent clipPosition = false := by
    rw [← isIdent_clip (among (lastToken, early.length + 1 + inner.length) (by simp)), heldLast]
    exact after last (by simp)
  refine ⟨?_, ?_, ?_⟩
  · rw [onePass_append unmarkedEarly isClip unmarkedInner unendedInner isLast unmarkedLate tokens shape,
      tokenText_eq unmarkedLast, heldLast, keptFront, keptMiddle, keptBack]
    simp only [render_append, render_cons, render_tokenize, Option.map_some, Option.getD_some]
  · rw [shape, countP_append_cons _ unmarkedEarly isClip, List.countP_append, List.countP_cons,
      countP_unmarked unmarkedInner, countP_unmarked unmarkedLate, unmarkedLast]
    rfl
  · rw [shape, clipEnd?_append early inner late clipToken lastToken unmarkedEarly isClip unendedInner isLast]
    rfl

theorem finishBody_eq_onePass {tokens : List Token} {restored : Restored}
    (succeeds : finishBody ⟨tokens⟩ = .ok restored) :
    restored = ⟨neededDeclarations tokens, onePass tokens⟩ ∧
      tokens.countP (·.isIdent clipPosition) ≤ 1 ∧
      (clipEnd? tokens).isSome = tokens.any (·.isIdent clipPosition) := by
  unfold finishBody at succeeds
  simp only [foldl_builtinInputs] at succeeds
  split at succeeds
  · cases succeeds
  · obtain ⟨draft, split, rfl⟩ := map_eq_ok_iff.mp succeeds
    replace split := clipSplit_of_eq split
    generalize kept : tokens.zipIdx.filterMap (inputsNamed? tokens) = left at split
    cases split with
    | unused absent =>
      obtain ⟨written, endless, unused⟩ := onePass_of_no_clip (kept ▸ absent)
      have count : tokens.countP (·.isIdent clipPosition) = 0 := by simpa using unused
      refine ⟨?_, by omega, by rw [endless, unused]; rfl⟩
      simp only [Draft.finish, neededDeclarations, written, unused, Bool.false_eq_true, if_false, List.append_nil,
        Body.text, kept]
    | ended before clip after between ends =>
      obtain ⟨written, count, finite⟩ := onePass_of_clip kept before clip after between ends
      have used : tokens.any (·.isIdent clipPosition) = true := by
        have positive : 0 < tokens.countP (·.isIdent clipPosition) := by omega
        simpa using positive
      refine ⟨?_, by omega, by rw [finite, used]⟩
      simp only [Draft.finish, neededDeclarations, written, used, if_true, Body.text]

/-- A body that can be restored is written in one pass over its restored tokens. At most one clip
position is among them, and where there is one, a semicolon follows it. -/
theorem restoreBody_eq_onePass {symbols : SymbolMap} {text : Text} {restored : Restored}
    (succeeds : restoreBody symbols text = .ok restored) :
    let tokens := restoredTokens symbols (.ofText text)
    Restorable symbols (.ofText text) ∧
      restored = ⟨neededDeclarations tokens, onePass tokens⟩ ∧
      tokens.countP (·.isIdent clipPosition) ≤ 1 ∧
      (clipEnd? tokens).isSome = tokens.any (·.isIdent clipPosition) := by
  obtain ⟨restorable, finished⟩ := restoreBody_eq_ok.mp succeeds
  exact ⟨restorable, finishBody_eq_onePass finished⟩

def matrixEndedBody : Text :=
  "attribute vec4 _n;\ngl_Position = gl_MultiTexCoord3 + _n\nuniform vec4 _w[04]; _w[4];\n"

def matrixEndedSymbols : SymbolMap :=
  .ofPairs [("_w", ⟨"world", .semantic⟩), ("_n", ⟨"$vin.ATTR8", .semantic⟩)]

def matrixEndedResult : Restored :=
  ⟨["attribute vec4 texCoord3;", "vec4 _glPositionTemp;", "uniform vec4 dx_clipping;"],
    "attribute vec4 normal;\n_glPositionTemp = texCoord3 + normal\nuniform mat4 world;" ++
      " gl_Position = vec4(_glPositionTemp.x + _glPositionTemp.w * dx_clipping.x, " ++
      "dx_clipping.w * (_glPositionTemp.y + _glPositionTemp.w * dx_clipping.y), " ++
      "_glPositionTemp.z * 2.0 - _glPositionTemp.w, _glPositionTemp.w); world[4];\n"⟩

theorem restoreBody_eq_onePass_matrixEnded :
    restoreBody matrixEndedSymbols matrixEndedBody = .ok matrixEndedResult ∧
      matrixEndedResult.body = onePass (restoredTokens matrixEndedSymbols (.ofText matrixEndedBody)) := by
  have succeeds : restoreBody matrixEndedSymbols matrixEndedBody = .ok matrixEndedResult := by decide +kernel
  exact ⟨succeeds, congrArg Restored.body (restoreBody_eq_onePass succeeds).2.1⟩

end ShaderPair.Restoration
