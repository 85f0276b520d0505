import Mathlib.Data.List.Basic
import ShaderPair.Proofs.TokenLines

/-! Matrix declarations by position. Which tokens make up the declaration of a matrix can be told from
the tokens before anything is collapsed. The main statement says that collapsing changes the type
at its position, drops the three positions of the subscript, and keeps every other token. -/

namespace ShaderPair.Restoration

def startsLine (tokens : List Token) (position : Nat) : Bool :=
  position == 0 || tokens[position - 1]?.any (·.kind == .newline)

def matrixAt? (tokens : List Token) (position : Nat) : Option (Nat × Text) :=
  if startsLine tokens position then leadingMatrix? (tokens.drop position) else none

def matrixType? (tokens : List Token) (position : Nat) : Option Nat :=
  if 2 ≤ position then (matrixAt? tokens (position - 2)).map Prod.fst else none

/-- Whether a position is one of the three of `[N]` in the declaration of a matrix. -/
def inSubscript (tokens : List Token) (position : Nat) : Bool :=
  [5, 6, 7].any fun offset => offset ≤ position && (matrixAt? tokens (position - offset)).isSome

/-- A token after the matrices are collapsed, if it is still there. -/
def collapsed? (tokens : List Token) (item : Token × Nat) : Option Token :=
  match matrixType? tokens item.2 with
  | some side => some ⟨.ident, "mat" ++ Text.decimal side⟩
  | none => if inSubscript tokens item.2 then none else some item.1

theorem inner_of_areLines {first : List Token} {lines : List (List Token)} (areLines : AreLines (first :: lines))
    {index : Nat} {token : Token} (early : index + 1 < first.length) (held : first[index]? = some token) :
    token.kind ≠ .newline := by
  cases areLines with
  | last filled inner => exact inner token (List.mem_of_getElem? held)
  | @cons line ending lines inner closed later =>
    rw [List.length_append, List.length_singleton] at early
    rw [List.getElem?_append_left (by omega)] at held
    exact inner token (List.mem_of_getElem? held)

theorem no_newline_of_leadingMatrix {tokens : List Token} {matrix : Nat × Text}
    (found : leadingMatrix? tokens = some matrix) {index : Nat} {token : Token} (early : index < 9)
    (held : tokens[index]? = some token) : token.kind ≠ .newline := by
  have kinds := readsKinds_leadingMatrix.kinds_of_some tokens matrix found
  have among : token ∈ tokens.take matrixKinds.length := by
    have bound : index < matrixKinds.length := early
    apply List.mem_of_getElem? (i := index)
    rw [List.getElem?_take_of_lt bound, held]
  have listed := List.mem_map_of_mem (f := Token.kind) among
  rw [kinds] at listed
  intro closed
  rw [closed] at listed
  exact absurd listed (by decide)

theorem startsLine_length {before : List Token} (rest : List Token)
    (closed : ∀ last ∈ before.getLast?, last.kind = .newline) :
    startsLine (before ++ rest) before.length = true := by
  unfold startsLine
  cases last : before.getLast? with
  | none => simp [List.getLast?_eq_none_iff.mp last]
  | some token =>
    have newline := closed token last
    rw [List.getLast?_eq_getElem?] at last
    have filled : before.length - 1 < before.length := (List.getElem?_eq_some_iff.mp last).1
    simp [List.getElem?_append_left filled, last, newline]

/-- Within a line, the only matrix is the one the line starts with. -/
theorem matrixAt?_in_line {before line : List Token} {lines : List (List Token)}
    (areLines : AreLines (line :: lines)) (closed : ∀ last ∈ before.getLast?, last.kind = .newline)
    {position offset : Nat} (small : offset ≤ 7) (above : before.length ≤ position)
    (below : position < before.length + line.length) (reachable : offset ≤ position) :
    matrixAt? (before ++ (line ++ lines.flatten)) (position - offset) =
      if position = before.length + offset then leadingMatrix? line else none := by
  have read : leadingMatrix? (line ++ lines.flatten) = leadingMatrix? line :=
    readsKinds_leadingMatrix.append (by decide) areLines.closed_or_last
  split
  · next exactly =>
    have start : position - offset = before.length := by omega
    rw [start, matrixAt?, startsLine_length _ closed, if_pos rfl, List.drop_left, read]
  · next elsewhere =>
    unfold matrixAt?
    split
    · next starts =>
      cases found : leadingMatrix? ((before ++ (line ++ lines.flatten)).drop (position - offset)) with
      | none => rfl
      | some matrix =>
        rcases Nat.lt_or_gt_of_ne (show position - offset ≠ before.length by omega) with early | late
        -- A declaration that starts before the line would hold the line end before it.
        · have present : ∃ last, before[before.length - 1]? = some last :=
            ⟨_, List.getElem?_eq_getElem (show before.length - 1 < before.length by omega)⟩
          obtain ⟨last, held⟩ := present
          have newline := closed last (List.getLast?_eq_getElem?.trans held)
          have inside : (before.length - 1) - (position - offset) < 9 := by omega
          refine absurd newline (no_newline_of_leadingMatrix found inside ?_)
          have same : position - offset + (before.length - 1 - (position - offset)) = before.length - 1 := by omega
          rw [List.getElem?_drop, same, List.getElem?_append_left (by omega), held]
        -- A line that starts later would follow a line end inside this one.
        · have index : position - offset - 1 - before.length + 1 < line.length := by omega
          unfold startsLine at starts
          rw [List.getElem?_append_right (by omega), List.getElem?_append_left (by omega)] at starts
          have unstarted : (position - offset == 0) = false := beq_eq_false_iff_ne.mpr (by omega)
          rw [unstarted, Bool.false_or, Option.any_eq_true] at starts
          obtain ⟨token, held, newline⟩ := starts
          exact absurd (eq_of_beq newline) (inner_of_areLines areLines index held)
    · rfl

theorem filterMap_kept {change : Token × Nat → Option Token} {tokens : List Token} {start : Nat}
    (kept : ∀ item ∈ tokens.zipIdx start, change item = some item.1) :
    (tokens.zipIdx start).filterMap change = tokens := by
  rw [List.filterMap_congr kept, List.filterMap_eq_map', List.zipIdx_map_fst]

theorem collapsed?_in_line {before line : List Token} {lines : List (List Token)}
    (areLines : AreLines (line :: lines)) (closed : ∀ last ∈ before.getLast?, last.kind = .newline)
    {item : Token × Nat} (member : item ∈ line.zipIdx before.length) :
    collapsed? (before ++ (line ++ lines.flatten)) item =
      match leadingMatrix? line with
      | none => some item.1
      | some (side, _) =>
        if item.2 = before.length + 2 then some ⟨.ident, "mat" ++ Text.decimal side⟩
        else if item.2 ∈ [before.length + 5, before.length + 6, before.length + 7] then none
        else some item.1 := by
  have above := List.le_snd_of_mem_zipIdx member
  have below := List.snd_lt_of_mem_zipIdx member
  have matrix : ∀ offset ≤ 7, offset ≤ item.2 → matrixAt? (before ++ (line ++ lines.flatten)) (item.2 - offset) =
      if item.2 = before.length + offset then leadingMatrix? line else none := by
    intro offset small reachable
    exact matrixAt?_in_line areLines closed small above (by omega) reachable
  have type : matrixType? (before ++ (line ++ lines.flatten)) item.2 =
      if item.2 = before.length + 2 then (leadingMatrix? line).map Prod.fst else none := by
    unfold matrixType?
    by_cases reachable : 2 ≤ item.2
    · rw [if_pos reachable, matrix 2 (by omega) reachable]
      split <;> rfl
    · rw [if_neg reachable, if_neg (by omega)]
  have each : ∀ offset ≤ 7, (decide (offset ≤ item.2) &&
      (matrixAt? (before ++ (line ++ lines.flatten)) (item.2 - offset)).isSome) =
        (decide (item.2 = before.length + offset) && (leadingMatrix? line).isSome) := by
    intro offset small
    by_cases reachable : offset ≤ item.2
    · rw [matrix offset small reachable, decide_eq_true reachable, Bool.true_and]
      by_cases exactly : item.2 = before.length + offset
      · rw [if_pos exactly, decide_eq_true exactly, Bool.true_and]
      · rw [if_neg exactly, decide_eq_false exactly, Bool.false_and, Option.isSome_none]
    · rw [decide_eq_false reachable, decide_eq_false (by omega), Bool.false_and, Bool.false_and]
  have subscript : inSubscript (before ++ (line ++ lines.flatten)) item.2 =
      (decide (item.2 ∈ [before.length + 5, before.length + 6, before.length + 7]) &&
        (leadingMatrix? line).isSome) := by
    simp only [inSubscript, List.any_cons, List.any_nil, Bool.or_false, each 5 (by omega), each 6 (by omega),
      each 7 (by omega), List.mem_cons, List.not_mem_nil, or_false, Bool.decide_or, Bool.and_or_distrib_right]
  rw [collapsed?, type, subscript]
  cases leadingMatrix? line with
  | none => simp
  | some matrix =>
    by_cases typed : item.2 = before.length + 2
    · simp only [if_pos typed, Option.map_some]
    · simp only [if_neg typed, Option.isSome_some, Bool.and_true, decide_eq_true_eq]

theorem filterMap_line {before line : List Token} {lines : List (List Token)}
    (areLines : AreLines (line :: lines)) (closed : ∀ last ∈ before.getLast?, last.kind = .newline) :
    (line.zipIdx before.length).filterMap (collapsed? (before ++ (line ++ lines.flatten))) =
      collapseLine line := by
  rw [List.filterMap_congr fun item member => collapsed?_in_line areLines closed member, collapseLine]
  cases found : leadingMatrix? line with
  | none => exact filterMap_kept fun item _ => rfl
  | some matrix =>
    obtain ⟨side, name⟩ := matrix
    obtain ⟨_, _, _, _, _, _, _, _, _, rest, rfl, _⟩ := leadingMatrix?_shape found
    have kept : (rest.zipIdx (before.length + 9)).filterMap (fun item =>
        if item.2 = before.length + 2 then some (⟨.ident, "mat" ++ Text.decimal side⟩ : Token)
        else if item.2 ∈ [before.length + 5, before.length + 6, before.length + 7] then none
        else some item.1) = rest := by
      apply filterMap_kept
      intro item member
      have above := List.le_snd_of_mem_zipIdx member
      rw [if_neg (by omega), if_neg (by simp only [List.mem_cons, List.not_mem_nil, or_false]; omega)]
    simp only [List.zipIdx_cons, List.filterMap_cons, Nat.add_assoc, Nat.reduceAdd, kept]
    simp

theorem filterMap_lines (before : List Token) {lines : List (List Token)} (areLines : AreLines lines)
    (closed : ∀ last ∈ before.getLast?, last.kind = .newline) :
    (lines.flatten.zipIdx before.length).filterMap (collapsed? (before ++ lines.flatten)) =
      lines.flatMap collapseLine := by
  induction lines generalizing before with
  | nil => rfl
  | cons line lines ih =>
    rw [List.flatten_cons, List.zipIdx_append, List.filterMap_append, filterMap_line areLines closed,
      List.flatMap_cons, ← List.append_assoc, ← List.length_append]
    cases areLines with
    | last filled inner => simp
    | cons line inner newline later =>
      rw [ih _ later]
      intro last ends
      rw [← List.append_assoc, List.getLast?_concat] at ends
      cases ends
      exact newline

theorem collapse_eq_positions (tokens : List Token) :
    (Body.collapse ⟨tokens⟩).tokens = tokens.zipIdx.filterMap (collapsed? tokens) := by
  have lines := filterMap_lines [] (areLines_tokenLines tokens) (by simp)
  rw [flatten_tokenLines] at lines
  rw [Body.collapse_eq_lines]
  exact lines.symm

/-! What collapsing does to a single token. Names other than those of vector and matrix types, and
semicolons, are neither lost nor made. -/

theorem matrixType?_ident {tokens : List Token} {item : Token × Nat} (member : item ∈ tokens.zipIdx) {side : Nat}
    (typed : matrixType? tokens item.2 = some side) :
    item.1.kind = .ident ∧ Text.startsWith "vec" item.1.text = true := by
  rw [List.mem_zipIdx_iff_getElem?] at member
  unfold matrixType? at typed
  split at typed
  · next reachable =>
    obtain ⟨⟨other, name⟩, found, rfl⟩ := Option.map_eq_some_iff.mp typed
    unfold matrixAt? at found
    split at found
    · obtain ⟨_, _, type, _, _, _, _, _, _, _, shape, fits⟩ := leadingMatrix?_shape found
      have held : (tokens.drop (item.2 - 2))[2]? = some type := by rw [shape]; rfl
      rw [List.getElem?_drop, Nat.sub_add_cancel reachable, member] at held
      cases held
      obtain ⟨_, _, ⟨word, read⟩, _⟩ := fits
      refine ⟨word, ?_⟩
      unfold Text.after? at read
      split at read
      · assumption
      · cases read
    · cases found
  · cases typed

theorem inSubscript_other {tokens : List Token} {item : Token × Nat} (member : item ∈ tokens.zipIdx)
    (inside : inSubscript tokens item.2 = true) :
    item.1.kind ≠ .ident ∧ item.1.isPunct ';' = false := by
  rw [List.mem_zipIdx_iff_getElem?] at member
  obtain ⟨offset, among, holds⟩ := List.any_eq_true.mp inside
  simp only [Bool.and_eq_true, decide_eq_true_eq] at holds
  obtain ⟨reachable, found⟩ := holds
  obtain ⟨⟨side, name⟩, found⟩ := Option.isSome_iff_exists.mp found
  unfold matrixAt? at found
  split at found
  · obtain ⟨_, _, _, _, _, opening, length, closing, _, _, shape, fits⟩ := leadingMatrix?_shape found
    have held : (tokens.drop (item.2 - offset))[offset]? = some item.1 := by
      rw [List.getElem?_drop, Nat.sub_add_cancel reachable, member]
    simp only [Token.isPunct, Bool.and_eq_true, beq_iff_eq] at fits
    obtain ⟨_, _, _, _, _, opens, ⟨number, _⟩, closes, _⟩ := fits
    simp only [List.mem_cons, List.not_mem_nil, or_false] at among
    rw [shape] at held
    rcases among with rfl | rfl | rfl
    · cases held
      simp [Token.isPunct, opens]
    · cases held
      simp [Token.isPunct, number]
    · cases held
      simp [Token.isPunct, closes]
  · cases found

/-- Neither the name of a vector type nor that of a matrix type. -/
def Untyped (name : Text) : Prop :=
  Text.startsWith "vec" name = false ∧ Text.startsWith "mat" name = false

instance (name : Text) : Decidable (Untyped name) := inferInstanceAs (Decidable (_ ∧ _))

theorem isIdent_collapsed {tokens : List Token} {item : Token × Nat} (member : item ∈ tokens.zipIdx) {name : Text}
    (untyped : Untyped name) : (collapsed? tokens item).any (·.isIdent name) = item.1.isIdent name := by
  unfold collapsed?
  cases typed : matrixType? tokens item.2 with
  | some side =>
    obtain ⟨_, vector⟩ := matrixType?_ident member typed
    have lost : item.1.text ≠ name := by
      rintro rfl
      rw [untyped.1] at vector
      cases vector
    have made : "mat" ++ Text.decimal side ≠ name := by
      rintro rfl
      exact absurd untyped.2 (by simp [Text.startsWith])
    simp only [Option.any_some, Token.isIdent, beq_eq_false_iff_ne.mpr lost, beq_eq_false_iff_ne.mpr made,
      Bool.and_false]
  | none =>
    cases inside : inSubscript tokens item.2 with
    | true =>
      have other := (inSubscript_other member inside).1
      simp [Token.isIdent, other]
    | false => rfl

theorem isPunct_collapsed {tokens : List Token} {item : Token × Nat} (member : item ∈ tokens.zipIdx) :
    (collapsed? tokens item).any (·.isPunct ';') = item.1.isPunct ';' := by
  unfold collapsed?
  cases typed : matrixType? tokens item.2 with
  | some side =>
    have word := (matrixType?_ident member typed).1
    simp [Token.isPunct, word]
  | none =>
    cases inside : inSubscript tokens item.2 with
    | true =>
      have other := (inSubscript_other member inside).2
      simp [other]
    | false => rfl

end ShaderPair.Restoration
