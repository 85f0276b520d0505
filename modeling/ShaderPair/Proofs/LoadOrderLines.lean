import ShaderPair.Proofs.DirectiveSearch
import ShaderPair.Proofs.LineEnds

/-! The load order as a line. What is read for the load order is written as one line between the two stages of
a pair, but a directive may run over a line end, and then two or more lines of the source are read. The main
statement says that this is the only way to get more than one line: else the load order is the first line that
holds a directive. -/

namespace ShaderPair

namespace Text

theorem infix_trim {middle : Text} (before after : Text) (filled : middle ≠ [])
    (starts : ∀ c ∈ middle.head?, isBlank c = false) (ends : ∀ c ∈ middle.getLast?, isBlank c = false) :
    middle <:+: trim (before ++ middle ++ after) := by
  have opened : ∃ front, trimStart (before ++ middle ++ after) = front ++ middle ++ after := by
    have kept : (middle ++ after).dropWhile isBlank = middle ++ after := by
      cases middle with
      | nil => exact absurd rfl filled
      | cons c rest => simp [starts c rfl]
    rw [trimStart, List.append_assoc, List.dropWhile_append]
    split
    · exact ⟨[], by rw [kept]; rfl⟩
    · exact ⟨before.dropWhile isBlank, by rw [List.append_assoc]⟩
  have whole : trimEnd middle = middle := by
    rw [trimEnd, List.reverse_eq_iff]
    cases reversed : middle.reverse with
    | nil => rfl
    | cons c rest =>
      have last : middle.getLast? = some c := by rw [← List.head?_reverse, reversed]; rfl
      rw [List.dropWhile_cons_of_neg (by simp [ends c last])]
  obtain ⟨front, same⟩ := opened
  rw [trim, same, trimEnd_append, trimEnd_append, whole, if_neg filled]
  split
  · exact ⟨front, [], by simp⟩
  · exact ⟨front, trimEnd after, rfl⟩

end Text

namespace Directive

open Text

/-! Directives of a line. -/

/-- A line that holds a load order directive by itself starts at the position. -/
def StartsOrder (source : Text) (start : Nat) : Prop :=
  ∃ stop position, IsLine source start stop ∧ HoldsLoadOrder (slice source start stop) position

/-- The value is the first line that holds a load order directive, trimmed. -/
def IsOrderLine (source value : Text) : Prop :=
  '\n' ∉ value ∧ ∃ start stop, IsLine source start stop ∧ IsLeast {s | StartsOrder source s} start ∧
    value = trim (slice source start stop)

/-- The directive that counts runs over a line end. -/
def RunsOver (source : Text) : Prop :=
  ∃ start stop position finish, Decides source start stop position finish ∧ '\n' ∈ slice source position finish

theorem LoadOrderAt.of_line {source : Text} {start stop position finish : Nat} (line : IsLine source start stop)
    (ends : LoadOrderAt (slice source start stop) position finish) :
    LoadOrderAt source (start + position) (start + finish) ∧ start + finish ≤ stop := by
  obtain ⟨⟨within, blanks, areBlanks, whole⟩, stops⟩ := ends
  have length := length_slice line.ordered line.le_length
  have inside : start + finish ≤ stop := by omega
  refine ⟨⟨⟨inside.trans line.le_length, blanks, areBlanks, ?_⟩, ?_⟩, inside⟩
  · rw [← whole, slice_slice source inside]
  · intro c next
    -- What ends the line is no word character either.
    rcases Nat.lt_or_ge (start + finish) stop with early | late
    · exact stops c ((getElem?_slice source early).trans next)
    · have same : start + finish = stop := by omega
      rw [same] at next
      rcases line.closed with last | feed
      · rw [List.getElem?_eq_none (by omega)] at next
        cases next
      · rw [feed] at next
        cases next
        decide

theorem LoadOrderAt.on_line {source : Text} {start stop position finish : Nat} (line : IsLine source start stop)
    (ends : LoadOrderAt source position finish) (above : start ≤ position) (below : finish ≤ stop) :
    LoadOrderAt (slice source start stop) (position - start) (finish - start) := by
  have ordered := ends.1.ordered
  obtain ⟨⟨_, blanks, areBlanks, whole⟩, stops⟩ := ends
  have length := length_slice line.ordered line.le_length
  have first : start + (position - start) = position := by omega
  have last : start + (finish - start) = finish := by omega
  refine ⟨⟨by omega, blanks, areBlanks, ?_⟩, ?_⟩
  · rw [slice_slice source (by omega), first, last, whole]
  · intro c next
    apply stops c
    have inside := (List.getElem?_eq_some_iff.mp next).1
    rwa [Option.mem_def, getElem?_slice source (by omega), last] at next

/-- Where the directive ends on its line, no earlier line holds one. -/
theorem Decides.isLeast {source : Text} {start stop position finish : Nat}
    (decides : Decides source start stop position finish) (within : finish ≤ stop) :
    IsLeast {s | StartsOrder source s} start := by
  obtain ⟨first, least, above, _⟩ := decides.first
  constructor
  · exact ⟨stop, position - start, decides.line, finish - start,
      decides.word.on_line decides.line decides.last.1.2.1 within⟩
  · intro other startsOrder
    obtain ⟨otherStop, offset, line, otherFinish, held⟩ := startsOrder
    obtain ⟨ends, inside⟩ := held.of_line line
    have notEarlier : first ≤ other + offset := least.2 ⟨_, ends⟩
    have ordered := ends.1.ordered
    by_contra before
    have reached := line.start_le decides.line.opened (by omega)
    omega

/-- A line end inside the directive is kept, since neither the mark nor the name is blank. -/
theorem Decides.mem_trim {source : Text} {start stop position finish lastStop : Nat}
    (decides : Decides source start stop position finish) (after : finish ≤ lastStop)
    (crosses : '\n' ∈ slice source position finish) : '\n' ∈ trim (slice source start lastStop) := by
  have ordered := decides.word.1.ordered
  obtain ⟨_, blanks, _, whole⟩ := decides.word.1
  have starts : ∀ c ∈ (slice source position finish).head?, isBlank c = false := by
    intro c head
    rw [whole] at head
    cases head
    decide
  have ends : ∀ c ∈ (slice source position finish).getLast?, isBlank c = false := by
    intro c last
    have name : loadOrderName.getLast? = some 'r' := by decide
    rw [whole, List.getLast?_append, name] at last
    cases last
    decide
  have kept := infix_trim (slice source start position) (slice source finish lastStop)
    (List.ne_nil_of_mem crosses) starts ends
  rw [slice_append source decides.last.1.2.1 ordered, slice_append source (decides.last.1.2.1.trans ordered) after]
    at kept
  exact kept.subset crosses

theorem Decides.finish_le {source : Text} {start stop position finish : Nat}
    (decides : Decides source start stop position finish) (within : '\n' ∉ slice source position finish) :
    finish ≤ stop := by
  apply decides.line.le_finish decides.word.1.1
  intro index above below
  rcases Nat.lt_or_ge index position with early | late
  · have onLine := decides.last.1.2.2
    exact decides.line.unbroken index above (by omega)
  · exact feed_not_mem_slice.mp within index late below

/-- The load order is the first line that holds a directive, unless the directive that counts runs over a line
end. In that case, and in no other, the load order holds a line end itself. -/
theorem loadOrder_one_line_iff {source value : Text} (found : loadOrder source = .ok value) :
    (IsOrderLine source value ↔ ¬RunsOver source) ∧ ('\n' ∈ value ↔ RunsOver source) := by
  obtain ⟨start, stop, position, finish, lastStart, lastStop, decides, lastLine, above, below, rfl⟩ :=
    ((searches_loadOrder source).gives_iff value).mp found
  by_cases crosses : '\n' ∈ slice source position finish
  · have runsOver : RunsOver source := ⟨start, stop, position, finish, decides, crosses⟩
    have kept := decides.mem_trim below crosses
    exact ⟨iff_of_false (fun orderLine => orderLine.1 kept) (not_not_intro runsOver), iff_of_true kept runsOver⟩
  · have within : ¬RunsOver source := by
      intro runsOver
      obtain ⟨_, _, _, _, otherDecides, otherCrosses⟩ := runsOver
      obtain ⟨rfl, rfl, rfl⟩ := decides.unique otherDecides
      exact crosses otherCrosses
    have onLine := decides.finish_le crosses
    have after := decides.last.1.2.1.trans decides.word.1.ordered
    obtain ⟨rfl, rfl⟩ := lastLine.unique decides.line above below after onLine
    have unbroken : '\n' ∉ trim (slice source lastStart lastStop) := fun inside =>
      feed_not_mem_slice.mpr decides.line.unbroken (mem_of_mem_trim inside)
    have orderLine : IsOrderLine source (trim (slice source lastStart lastStop)) :=
      ⟨unbroken, lastStart, lastStop, decides.line, decides.isLeast onLine, rfl⟩
    exact ⟨iff_of_true orderLine within, iff_of_false unbroken within⟩

def plainOrder : Text :=
  "float4 a;\r\n  // #o3d MatrixLoadOrder #o3d\tMatrixLoadOrder RowMajor \r\n// #o3d MatrixLoadOrder b\r\n"

theorem loadOrder_one_line_iff_plain :
    loadOrder plainOrder = .ok "// #o3d MatrixLoadOrder #o3d\tMatrixLoadOrder RowMajor" ∧
      IsOrderLine plainOrder "// #o3d MatrixLoadOrder #o3d\tMatrixLoadOrder RowMajor" := by
  have found : loadOrder plainOrder = .ok "// #o3d MatrixLoadOrder #o3d\tMatrixLoadOrder RowMajor" := by decide +kernel
  obtain ⟨orderLine, crosses⟩ := loadOrder_one_line_iff found
  exact ⟨found, orderLine.mpr fun runsOver => absurd (crosses.mpr runsOver) (by decide)⟩

def brokenOrder : Text := "#o3d\nMatrixLoadOrder a\n#o3d MatrixLoadOrder b"

theorem brokenOrder_two_lines :
    ¬∀ value, loadOrder brokenOrder = .ok value → IsOrderLine brokenOrder value := by
  intro always
  have found : loadOrder brokenOrder = .ok "#o3d\nMatrixLoadOrder a" := by decide +kernel
  exact absurd (by decide) (always _ found).1

end Directive

end ShaderPair
