import ShaderPair.Proofs.SplitMarker

/-! The log as comments. Diagnostics are written by the compiler and stand in front of shader text, so no row of
them may be read as shader text. The main statement says that the rows of a block are its title and the lines of
the diagnostics behind comment marks, that the lines can be told from the block, and that the log of every
conversion holds comments and empty rows only. -/

namespace ShaderPair.Conversion

open Text

/-- Each row is empty or a comment. -/
def Commented (text : Text) : Prop := ∀ row ∈ rows text, row = [] ∨ startsWith "//" row = true

theorem startsWith_append (opening rest : Text) : startsWith opening (opening ++ rest) = true :=
  List.isPrefixOf_iff_prefix.mpr (List.prefix_append opening rest)

theorem commented_nil : Commented [] := by
  intro row member
  exact .inl (List.mem_singleton.mp member)

theorem commented_append {left right : Text} :
    Commented (left ++ '\n' :: right) ↔ Commented left ∧ Commented right := by
  unfold Commented
  rw [rows_append]
  exact List.forall_mem_append

def commentRows (lines : List Text) : List Text :=
  if lines.isEmpty then [[]] else lines.map fun line => "// " ++ line

theorem comment_of_mem_commentRows {lines : List Text} {row : Text} (member : row ∈ commentRows lines) :
    row = [] ∨ startsWith "//" row = true := by
  unfold commentRows at member
  split at member
  · exact .inl (List.mem_singleton.mp member)
  · obtain ⟨line, _, rfl⟩ := List.mem_map.mp member
    exact .inr (startsWith_append "//" (' ' :: line))

/-- The lines can be told from the rows, since an empty line has a comment mark too. -/
theorem commentRows_injective : Function.Injective commentRows := by
  intro first second same
  have marked : Function.Injective fun line : Text => "// ".toList ++ line := fun _ _ => List.append_cancel_left
  cases first with
  | nil =>
    cases second with
    | nil => rfl
    | cons line rest => simp [commentRows] at same
  | cons line rest =>
    cases second with
    | nil => simp [commentRows] at same
    | cons other later => exact List.map_injective_iff.mpr marked same

theorem blockTitle_injective : Function.Injective blockTitle := by
  intro first second same
  cases first <;> cases second
  · rfl
  · exact absurd same (by decide)
  · exact absurd same (by decide)
  · rfl

theorem diagnosticBlock_eq_iff {stage other : Stage} {first second : Text} :
    diagnosticBlock stage first = diagnosticBlock other second ↔ stage = other ∧ lines first = lines second := by
  constructor
  · intro same
    have split := congrArg rows same
    rw [rows_diagnosticBlock, rows_diagnosticBlock, List.cons.injEq] at split
    exact ⟨blockTitle_injective split.1, commentRows_injective split.2⟩
  · rintro ⟨rfl, same⟩
    rw [diagnosticBlock, same, diagnosticBlock]

theorem commented_diagnosticBlock (stage : Stage) (diagnostics : Text) :
    Commented (diagnosticBlock stage diagnostics) := by
  intro row member
  rw [rows_diagnosticBlock] at member
  rcases List.mem_cons.mp member with rfl | below
  · exact .inr (startsWith_append "//" (" " ++ stage.profile ++ " profile log:"))
  · exact comment_of_mem_commentRows below

theorem commented_answeredLog (answers : List Answer) : Commented (answeredLog answers) := by
  match answers with
  | [] => exact commented_nil
  | [vertex] => exact commented_append.mpr ⟨commented_diagnosticBlock .vertex vertex.diagnostics, commented_nil⟩
  | vertex :: fragment :: _ =>
    rw [answeredLog, bothBlocks_eq, commented_append, commented_append, commented_append]
    exact ⟨commented_diagnosticBlock .vertex vertex.diagnostics, commented_nil,
      commented_diagnosticBlock .fragment fragment.diagnostics, commented_nil⟩

def outcomeLog : Except Failure Pair → Text
  | .ok pair => pair.log
  | .error failure => failure.log

theorem Course.outcomeLog_eq {compiler : Compiler} {source : Text} {attempt : Attempt Pair Failure}
    (course : Course compiler source attempt) :
    outcomeLog attempt.outcome = answeredLog (answers compiler [] attempt.calls) := by
  cases outcome : attempt.outcome with
  | ok pair => exact (course.success_log outcome).1
  | error failure => exact course.failure_log outcome

/-- A block of diagnostics has a title and then one comment for each line of the diagnostics, or one empty row when
there is no line. So two blocks are the same exactly when they belong to one stage and have the same lines, and no row
of the log of a conversion, successful or not, is anything but empty or a comment. -/
theorem diagnostics_stay_comments :
    (∀ stage diagnostics, rows (diagnosticBlock stage diagnostics) =
      blockTitle stage ::
        if (lines diagnostics).isEmpty then [[]] else (lines diagnostics).map fun line => "// " ++ line) ∧
    (∀ stage other first second, diagnosticBlock stage first = diagnosticBlock other second ↔
      stage = other ∧ lines first = lines second) ∧
    ∀ compiler source, ∀ row ∈ rows (outcomeLog (convert compiler source).outcome),
      row = [] ∨ startsWith "//" row = true := by
  refine ⟨rows_diagnosticBlock, fun _ _ _ _ => diagnosticBlock_eq_iff, ?_⟩
  intro compiler source
  rw [(course_convert compiler source).outcomeLog_eq]
  exact commented_answeredLog _

end ShaderPair.Conversion
