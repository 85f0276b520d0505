import ShaderPair.Proofs.LineEnds

/-! Rows of a text: the pieces between its line feeds. A row may end in a carriage return, and the last
row may be empty, so rows are not lines; but texts that are put together with line feeds have the rows of
their parts, and lines that are joined are the rows again. -/

namespace ShaderPair.Text

/-- The pieces between line feeds. -/
def rows (text : Text) : List Text := split (· == '\n') text

theorem rows_append (left right : Text) : rows (left ++ '\n' :: right) = rows left ++ rows right := by
  unfold rows
  induction left with
  | nil => rfl
  | cons c left ih =>
    obtain ⟨row, later, same⟩ := List.exists_cons_of_ne_nil (split_ne_nil (· == '\n') left)
    rw [same] at ih
    rw [List.cons_append, split, split, ih, same]
    split <;> rfl

theorem rows_eq_singleton {text : Text} (unbroken : '\n' ∉ text) : rows text = [text] := by
  induction text with
  | nil => rfl
  | cons c rest ih =>
    simp only [List.mem_cons, not_or] at unbroken
    have later : split (· == '\n') rest = [rest] := ih unbroken.2
    rw [rows, split, later, if_neg (by simpa using Ne.symm unbroken.1)]

theorem rows_line {line : Text} (unbroken : '\n' ∉ line) (rest : Text) :
    rows (line ++ '\n' :: rest) = line :: rows rest := by
  rw [rows_append, rows_eq_singleton unbroken, List.singleton_append]

theorem not_mem_of_mem_split {isMark : Char → Bool} {text piece : Text} (member : piece ∈ split isMark text)
    {c : Char} (marks : isMark c = true) : c ∉ piece := by
  induction text generalizing piece with
  | nil => simp_all [split]
  | cons first rest ih =>
    obtain ⟨head, pieces, same⟩ := List.exists_cons_of_ne_nil (split_ne_nil isMark rest)
    rw [same] at ih
    rw [split, same] at member
    split at member
    · rcases List.mem_cons.mp member with rfl | later
      · exact List.not_mem_nil
      · exact ih later
    · next other =>
      rcases List.mem_cons.mp member with rfl | later
      · intro inside
        rcases List.mem_cons.mp inside with rfl | deeper
        · exact other marks
        · exact ih List.mem_cons_self deeper
      · exact ih (List.mem_cons_of_mem _ later)

theorem unbroken_of_mem_lines {text line : Text} (member : line ∈ lines text) : '\n' ∉ line := by
  intro inside
  obtain ⟨piece, among, found⟩ := mem_of_mem_closeLines member inside
  exact not_mem_of_mem_split among rfl found

/-- Lines that are joined are the rows again; without a line there is one empty row. -/
theorem rows_join {texts : List Text} (unbroken : ∀ text ∈ texts, '\n' ∉ text) :
    rows (join "\n" texts) = if texts.isEmpty then [[]] else texts := by
  induction texts with
  | nil => rfl
  | cons text rest ih =>
    have here : '\n' ∉ text := unbroken text List.mem_cons_self
    cases rest with
    | nil => exact rows_eq_singleton here
    | cons next rest =>
      have later := ih fun other member => unbroken other (List.mem_cons_of_mem _ member)
      rw [join, List.append_assoc]
      exact (rows_line here _).trans (congrArg (text :: ·) later)

theorem join_rows (text : Text) : join "\n" (rows text) = text := by
  unfold rows
  induction text with
  | nil => rfl
  | cons c rest ih =>
    obtain ⟨row, later, same⟩ := List.exists_cons_of_ne_nil (split_ne_nil (· == '\n') rest)
    rw [same] at ih
    rw [split, same]
    split
    · next feed =>
      rw [join, ih, beq_iff_eq.mp feed]
      rfl
    · cases later with
      | nil => exact congrArg (c :: ·) ih
      | cons next later => exact congrArg (c :: ·) ih

end ShaderPair.Text
