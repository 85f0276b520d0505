import Mathlib.Data.List.Basic
import ShaderPair.Proofs.CompilerCalls
import ShaderPair.Proofs.Rows

/-! The split marker. A reader of the result takes the first line that is the marker and cuts the text
there. What stands before the marker is written by others, so the cut can come too early: the main
statement says exactly when it does. -/

namespace ShaderPair

namespace Text

def endRow (row : Text) : Text := row ++ "\n"

/-- What stands before the first row that is the marker, each row with its line feed, and what stands
after that row. -/
def cutRows? (marker : Text) : List Text → Option (Text × Text)
  | [] => none
  | row :: rest =>
    if row = marker then some ([], join "\n" rest)
    else (cutRows? marker rest).map fun halves => (endRow row ++ halves.1, halves.2)

/-- The text before the first line that is the marker, and the text after the end of that line. -/
def cutAtLine? (marker text : Text) : Option (Text × Text) := cutRows? marker (rows text)

theorem flatMap_rows (text : Text) : (rows text).flatMap endRow = endRow text := by
  unfold rows
  induction text with
  | nil => rfl
  | cons c rest ih =>
    obtain ⟨row, later, same⟩ := List.exists_cons_of_ne_nil (split_ne_nil (· == '\n') rest)
    rw [same] at ih
    rw [split, same]
    split
    · next feed =>
      rw [List.flatMap_cons, ih, beq_iff_eq.mp feed]
      rfl
    · exact congrArg (c :: ·) ih

/-! The cut at the first marker. -/

theorem cutRows?_append {marker : Text} {front : List Text} (clean : marker ∉ front) (back : List Text) :
    cutRows? marker (front ++ marker :: back) = some (front.flatMap endRow, join "\n" back) := by
  induction front with
  | nil => simp [cutRows?]
  | cons row front ih =>
    simp only [List.mem_cons, not_or] at clean
    rw [List.cons_append, cutRows?, if_neg (Ne.symm clean.1), ih clean.2]
    rfl

theorem cutRows?_eq_iff (marker : Text) (front back : List Text) :
    cutRows? marker (front ++ marker :: back) = some (front.flatMap endRow, join "\n" back) ↔
      marker ∉ front := by
  constructor
  · intro cut early
    obtain ⟨first, second, rfl, clean⟩ := List.eq_append_cons_of_mem early
    rw [List.append_assoc, List.cons_append, cutRows?_append clean] at cut
    -- The cut leaves too little before it.
    have before := congrArg List.length (congrArg Prod.fst (Option.some.inj cut))
    have ended : (endRow marker).length = marker.length + 1 := List.length_append
    simp only [List.flatMap_append, List.flatMap_cons, List.length_append] at before
    omega
  · intro clean
    exact cutRows?_append clean back

theorem cutAtLine?_eq_iff {marker : Text} (unbroken : '\n' ∉ marker) (before after : Text) :
    cutAtLine? marker (before ++ '\n' :: (marker ++ '\n' :: after)) = some (endRow before, after) ↔
      marker ∉ rows before := by
  rw [cutAtLine?, rows_append, rows_line unbroken, ← cutRows?_eq_iff marker (rows before) (rows after),
    flatMap_rows, join_rows]

end Text

def Pair.halves (pair : Pair) : Text × Text :=
  (pair.log ++ "\n" ++ pair.vertex ++ "\n\n", pair.loadOrder ++ "\n\n" ++ pair.fragment ++ "\n")

namespace Conversion

open Text

/-! The diagnostics before the shaders. -/

def blockTitle (stage : Stage) : Text := "// " ++ stage.profile ++ " profile log:"

theorem rows_diagnosticBlock (stage : Stage) (diagnostics : Text) :
    rows (diagnosticBlock stage diagnostics) =
      blockTitle stage ::
        if (lines diagnostics).isEmpty then [[]] else (lines diagnostics).map fun line => "// " ++ line := by
  have title : '\n' ∉ blockTitle stage := by cases stage <;> decide
  have comments : ∀ comment ∈ (lines diagnostics).map fun line : Text => "// ".toList ++ line, '\n' ∉ comment := by
    intro comment member inside
    obtain ⟨line, among, rfl⟩ := List.mem_map.mp member
    rcases List.mem_append.mp inside with mark | found
    · exact absurd mark (by decide)
    · exact unbroken_of_mem_lines among found
  have block : diagnosticBlock stage diagnostics =
      blockTitle stage ++ '\n' :: join "\n" ((lines diagnostics).map fun line => "// " ++ line) := by
    have ending : " profile log:\n".toList = " profile log:".toList ++ ['\n'] := by decide
    unfold diagnosticBlock blockTitle
    rw [ending, List.append_assoc, List.append_assoc, List.append_assoc, List.append_assoc]
    rfl
  rw [block, rows_line title, rows_join comments, List.isEmpty_map]

theorem comment_mem_diagnosticBlock {stage : Stage} {line : Text} (untitled : "// " ++ line ≠ blockTitle stage)
    (diagnostics : Text) :
    "// " ++ line ∈ rows (diagnosticBlock stage diagnostics) ↔ line ∈ lines diagnostics := by
  rw [rows_diagnosticBlock, List.mem_cons, or_iff_right untitled]
  cases lines diagnostics with
  | nil => simp
  | cons first rest => simp [eq_comm]

theorem bothBlocks_eq (vertex fragment : Answer) :
    bothBlocks vertex fragment = diagnosticBlock .vertex vertex.diagnostics ++ '\n' :: ([] ++ '\n' ::
      (diagnosticBlock .fragment fragment.diagnostics ++ '\n' :: [])) := by
  simp [bothBlocks]

theorem comment_mem_bothBlocks {line : Text} (untitled : ∀ stage, "// " ++ line ≠ blockTitle stage)
    (vertex fragment : Answer) :
    "// " ++ line ∈ rows (bothBlocks vertex fragment) ↔
      line ∈ lines vertex.diagnostics ∨ line ∈ lines fragment.diagnostics := by
  have filled : "// ".toList ++ line ≠ [] := by simp
  rw [bothBlocks_eq, rows_append, rows_line List.not_mem_nil, rows_append, rows_eq_singleton List.not_mem_nil]
  simp only [List.mem_append, List.mem_cons, List.not_mem_nil, or_false, filled, false_or,
    comment_mem_diagnosticBlock (untitled _)]

/-! The result. -/

def markerWords : Text := "#o3d SplitMarker"

/-- A pair is cut at its own marker exactly when neither its log nor its vertex shader has one. -/
theorem cutAtLine?_text (pair : Pair) :
    cutAtLine? splitMarker pair.text = some pair.halves ↔
      splitMarker ∉ rows pair.log ∧ splitMarker ∉ rows pair.vertex := by
  have unbroken : '\n' ∉ splitMarker := by decide
  have filled : splitMarker ≠ [] := by decide
  have whole : pair.text =
      (pair.log ++ '\n' :: (pair.vertex ++ '\n' :: [])) ++ '\n' :: (splitMarker ++ '\n' :: pair.halves.2) := by
    simp [Pair.text, Pair.halves]
  have halves : pair.halves = (endRow (pair.log ++ '\n' :: (pair.vertex ++ '\n' :: [])), pair.halves.2) := by
    simp [Pair.halves, endRow]
  rw [whole, halves, cutAtLine?_eq_iff unbroken, rows_append, rows_append, rows_eq_singleton List.not_mem_nil]
  simp only [List.mem_append, List.mem_singleton, filled, or_false, not_or]

theorem Course.answered_both {compiler : Compiler} {source : Text} {attempt : Attempt Pair Failure}
    (course : Course compiler source attempt) {pair : Pair} (succeeded : attempt.outcome = .ok pair) :
    ∃ vertex fragment, answers compiler [] attempt.calls = [vertex, fragment] ∧
      pair.log = bothBlocks vertex fragment := by
  cases course with
  | unordered missing | noVertexEntry ordered missing | vertexRefused ordered named refused
  | noFragmentEntry ordered named answered missing | fragmentRefused ordered named answered fragmentNamed refused =>
    cases succeeded
  | compiled ordered named answered fragmentNamed fragmentAnswered =>
    exact ⟨_, _, by simp [answers, answered, fragmentAnswered], restorePair_restored succeeded⟩

/-- The result of a conversion is cut into its two halves exactly when no line of the diagnostics would be
the marker as a comment and no line of the vertex shader is the marker. -/
theorem convert_cut_at_marker {compiler : Compiler} {source : Text} {pair : Pair}
    (succeeds : (convert compiler source).outcome = .ok pair) :
    ∃ vertex fragment, answers compiler [] (convert compiler source).calls = [vertex, fragment] ∧
      (cutAtLine? splitMarker pair.text = some pair.halves ↔
        (markerWords ∉ lines vertex.diagnostics ∧ markerWords ∉ lines fragment.diagnostics) ∧
          splitMarker ∉ rows pair.vertex) := by
  obtain ⟨vertex, fragment, both, log⟩ := (course_convert compiler source).answered_both succeeds
  have untitled : ∀ stage, "// " ++ markerWords ≠ blockTitle stage := by
    intro stage
    cases stage <;> decide
  have marker : splitMarker = "// " ++ markerWords := by decide
  have diagnosed : splitMarker ∈ rows pair.log ↔
      markerWords ∈ lines vertex.diagnostics ∨ markerWords ∈ lines fragment.diagnostics := by
    rw [log, marker]
    exact comment_mem_bothBlocks untitled vertex fragment
  exact ⟨vertex, fragment, both, by rw [cutAtLine?_text, diagnosed, not_or]⟩

def twoEntries : Text :=
  "//#o3d MatrixLoadOrder\n#o3d VertexShaderEntryPoint v\n#o3d PixelShaderEntryPoint f"

def markerAnswers (ending : Text) : Stage → Answer
  | .vertex => ⟨"//\n\na;\n // #o3d SplitMarker", []⟩
  | .fragment => ⟨"//\n\nb;", "warning\r\n#o3d SplitMarker" ++ ending⟩

def markerCompiler (ending : Text) : Compiler := fun _ call =>
  .ok (markerAnswers ending (if call.profile = Stage.vertex.profile then .vertex else .fragment))

def markerPair (ending : Text) : Pair where
  vertex := "//\n\n\n\na;\n // #o3d SplitMarker"
  fragment := "//\n\n\n\nb;"
  log := "// glslv profile log:\n\n\n// glslf profile log:\n// warning\n// #o3d SplitMarker" ++ ending ++ "\n"
  loadOrder := "//#o3d MatrixLoadOrder"

/-- A carriage return is part of the line, and hides the words, only when no line feed follows it. -/
theorem convert_cut_at_marker_returns :
    (convert (markerCompiler "\r") twoEntries).outcome = .ok (markerPair "\r") ∧
      cutAtLine? splitMarker (markerPair "\r").text = some (markerPair "\r").halves ∧
      (convert (markerCompiler "\r\n") twoEntries).outcome = .ok (markerPair []) ∧
      cutAtLine? splitMarker (markerPair []).text ≠ some (markerPair []).halves := by
  have hidden : (convert (markerCompiler "\r") twoEntries).outcome = .ok (markerPair "\r") ∧
      answers (markerCompiler "\r") [] (convert (markerCompiler "\r") twoEntries).calls =
        [markerAnswers "\r" .vertex, markerAnswers "\r" .fragment] := by decide +kernel
  have shown : (convert (markerCompiler "\r\n") twoEntries).outcome = .ok (markerPair []) ∧
      answers (markerCompiler "\r\n") [] (convert (markerCompiler "\r\n") twoEntries).calls =
        [markerAnswers "\r\n" .vertex, markerAnswers "\r\n" .fragment] := by decide +kernel
  obtain ⟨vertex, fragment, both, right⟩ := convert_cut_at_marker hidden.1
  obtain ⟨otherVertex, otherFragment, answeredBoth, wrong⟩ := convert_cut_at_marker shown.1
  rw [hidden.2] at both
  rw [shown.2] at answeredBoth
  cases both
  cases answeredBoth
  exact ⟨hidden.1, right.mpr (by decide +kernel), shown.1, fun cut => absurd (wrong.mp cut) (by decide +kernel)⟩

end Conversion

end ShaderPair
