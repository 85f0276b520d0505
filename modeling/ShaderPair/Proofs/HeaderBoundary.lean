import ShaderPair.Proofs.HeaderGrammar
import ShaderPair.Restoration

/-! Where a header ends. The mark looked for depends on whether `\r\n` stands anywhere in the text, so in a
text with both kinds of line ends the cut can come late, and a header cut too late holds lines that are no
comments. The main statement says that an accepted header is exactly the lines before the first empty
one. -/

namespace ShaderPair

namespace Text

theorem closeLines_append (pieces : List Text) {more : List Text} (filled : more ≠ []) :
    closeLines (pieces ++ more) = pieces.map dropReturn ++ closeLines more := by
  induction pieces with
  | nil => rfl
  | cons piece pieces ih =>
    obtain ⟨next, later, same⟩ := List.exists_cons_of_ne_nil (List.append_ne_nil_of_right_ne_nil pieces filled)
    rw [same] at ih
    rw [List.cons_append, same, closeLines, ih, List.map_cons, List.cons_append]

/-- Before a line feed every row is a line, whether or not something stands on it. -/
theorem lines_append (left right : Text) :
    lines (left ++ '\n' :: right) = (rows left).map dropReturn ++ lines right := by
  have filled : rows right ≠ [] := split_ne_nil _ right
  rw [lines, ← rows, rows_append, closeLines_append _ filled]
  rfl

theorem lines_line {line : Text} (unbroken : '\n' ∉ line) (rest : Text) :
    lines (line ++ '\n' :: rest) = dropReturn line :: lines rest := by
  rw [lines_append, rows_eq_singleton unbroken]
  rfl

theorem lines_unbroken {text : Text} (unbroken : '\n' ∉ text) :
    lines text = if text.isEmpty then [] else [text] := by
  rw [lines, ← rows, rows_eq_singleton unbroken, closeLines]

theorem lines_last_row (text : Text) :
    ∃ front last, '\n' ∉ last ∧ last <:+ text ∧ ∀ more, lines (text ++ more) = front ++ lines (last ++ more) := by
  by_cases broken : '\n' ∈ text
  · obtain ⟨reversed, earlier, same, unbroken⟩ := List.eq_append_cons_of_mem (List.mem_reverse.mpr broken)
    have parts : text = earlier.reverse ++ '\n' :: reversed.reverse := by
      rw [← text.reverse_reverse, same]
      simp
    refine ⟨(rows earlier.reverse).map dropReturn, reversed.reverse, ?_, ?_, ?_⟩
    · rwa [List.mem_reverse]
    · rw [parts]
      exact (List.suffix_cons _ _).trans (List.suffix_append _ _)
    · intro more
      rw [parts, List.append_assoc, List.cons_append, lines_append]
  · exact ⟨[], text, broken, List.suffix_refl text, fun more => rfl⟩

end Text

namespace Header

open Text

theorem lines_mark {translated header body last : Text} (cut : split translated = .ok (header, body))
    (unbroken : '\n' ∉ last) (ends : last <:+ header) :
    lines (last ++ (separator translated ++ body)) = last :: [] :: lines body := by
  cases returns : contains "\r\n" translated with
  | true =>
    have mark : separator translated = "\r\n\r\n" := by rw [separator, if_pos returns]
    have parts : last ++ (separator translated ++ body) = (last ++ ['\r']) ++ '\n' :: (['\r'] ++ '\n' :: body) := by
      rw [mark]
      simp
    have ended : '\n' ∉ last ++ ['\r'] := by simp [unbroken]
    have line : dropReturn (last ++ ['\r']) = last := by simp [dropReturn]
    rw [parts, lines_line ended, lines_line (by decide), line]
    rfl
  | false =>
    have mark : separator translated = "\n\n" := by rw [separator, returns, if_neg Bool.false_ne_true]
    have parts : last ++ (separator translated ++ body) = last ++ '\n' :: ([] ++ '\n' :: body) := by
      rw [mark]
      rfl
    -- A carriage return before the mark would make the text one with `\r\n` in it.
    have line : dropReturn last = last := by
      unfold dropReturn
      split
      · next final =>
        obtain ⟨start, rfl⟩ := List.getLast?_eq_some_iff.mp final
        obtain ⟨front, rfl⟩ := ends
        have inside : translated = (front ++ start) ++ "\r\n" ++ ('\n' :: body) := by
          rw [eq_of_split cut, mark]
          simp
        rw [inside, contains_append] at returns
        cases returns
      · rfl
    rw [parts, lines_line unbroken, lines_line List.not_mem_nil, line]
    rfl

theorem lines_split {translated header body : Text} (cut : split translated = .ok (header, body)) :
    ∃ blanks, blanks ≠ [] ∧ (∀ line ∈ blanks, line = []) ∧
      lines translated = lines header ++ blanks ++ lines body := by
  obtain ⟨front, last, unbroken, ends, extended⟩ := lines_last_row header
  have headed : lines header = front ++ lines last := by simpa using extended []
  have whole : lines translated = front ++ last :: [] :: lines body := by
    calc
      lines translated = lines (header ++ (separator translated ++ body)) := by
        rw [← List.append_assoc, ← eq_of_split cut]
      _ = front ++ lines (last ++ (separator translated ++ body)) := extended _
      _ = front ++ last :: [] :: lines body := by rw [lines_mark cut unbroken ends]
  by_cases bare : last = []
  · refine ⟨[[], []], by simp, by simp, ?_⟩
    rw [whole, headed, bare]
    simp [lines_unbroken]
  · refine ⟨[[]], by simp, by simp, ?_⟩
    rw [whole, headed, lines_unbroken unbroken]
    simp [bare]

/-- How a translated stage is shared out between its header and its body. -/
structure IsBoundary (translated header body : Text) : Prop where
  whole : translated = header ++ separator translated ++ body
  /-- The header has the lines before the first empty line. -/
  leading : lines header = (lines translated).takeWhile fun line => !line.isEmpty
  comments : ∀ line ∈ lines header, startsWith "//" line = true
  /-- Every line that is neither of the header nor of the body is empty, and there is one. -/
  between : ∃ blanks, blanks ≠ [] ∧ (∀ line ∈ blanks, line = []) ∧
    lines translated = lines header ++ blanks ++ lines body

theorem isBoundary_of_accepted {translated header body : Text} {table : SymbolMap}
    (cut : split translated = .ok (header, body)) (accepted : symbols header = .ok table) :
    IsBoundary translated header body := by
  have formed := (symbols_isOk_iff header).mp ⟨table, accepted⟩
  have comments : ∀ line ∈ lines header, startsWith "//" line = true := by
    intro line member
    exact (formed line member).1
  have filled : ∀ line ∈ lines header, (!line.isEmpty) = true := by
    intro line member
    have opens := comments line member
    cases line with
    | nil => cases opens
    | cons c rest => rfl
  obtain ⟨blanks, some, empty, whole⟩ := lines_split cut
  refine ⟨eq_of_split cut, ?_, comments, blanks, some, empty, whole⟩
  obtain ⟨first, others, rfl⟩ := List.exists_cons_of_ne_nil some
  obtain rfl := empty first List.mem_cons_self
  rw [whole, List.append_assoc, List.takeWhile_append_of_pos filled]
  simp

theorem accepted_of_restoreStage {translated result : Text}
    (restored : Restoration.restoreStage translated = .ok result) :
    ∃ header body table, split translated = .ok (header, body) ∧ symbols header = .ok table := by
  unfold Restoration.restoreStage at restored
  split at restored
  · cases restored
  · next header body cut =>
    split at restored
    · cases restored
    · next table accepted => exact ⟨header, body, table, cut, accepted⟩

/-- An accepted header, and so the header of every stage that is restored, is made of the comments before
the first empty line. -/
theorem header_ends_at_blank (translated : Text) :
    (∀ header body table, split translated = .ok (header, body) → symbols header = .ok table →
        IsBoundary translated header body) ∧
      ∀ result, Restoration.restoreStage translated = .ok result →
        ∃ header body table, split translated = .ok (header, body) ∧ symbols header = .ok table ∧
          IsBoundary translated header body := by
  constructor
  · intro header body table cut accepted
    exact isBoundary_of_accepted cut accepted
  · intro result restored
    obtain ⟨header, body, table, cut, accepted⟩ := accepted_of_restoreStage restored
    exact ⟨header, body, table, cut, accepted, isBoundary_of_accepted cut accepted⟩

def mixedStage : Text := "//var float4 a :  : _x : 0 : 1\n// b\n\r\n\r\nuniform vec4 _x;\n\n// c\r\n"

def mixedHeader : Text := "//var float4 a :  : _x : 0 : 1\n// b\n"

def mixedBody : Text := "uniform vec4 _x;\n\n// c\r\n"

theorem header_ends_at_blank_mixed :
    split mixedStage = .ok (mixedHeader, mixedBody) ∧
      symbols mixedHeader = .ok (.ofPairs [("_x", ⟨"a", .plain⟩)]) ∧
      lines mixedHeader = (lines mixedStage).takeWhile (fun line => !line.isEmpty) ∧
      (Restoration.restoreStage mixedStage).isOk = true := by
  have cut : split mixedStage = .ok (mixedHeader, mixedBody) := by decide +kernel
  have accepted : symbols mixedHeader = .ok (.ofPairs [("_x", ⟨"a", .plain⟩)]) := by decide +kernel
  have boundary := (header_ends_at_blank mixedStage).1 _ _ _ cut accepted
  exact ⟨cut, accepted, boundary.leading, by decide +kernel⟩

end Header

end ShaderPair
