import Mathlib.Tactic.ByContra
import ShaderPair.Proofs.Canonical
import ShaderPair.Proofs.DirectiveSteps

/-! Positions and lines of a text. A line is given by the positions of its start and its end, and every
position is on exactly one line. A search through the suffixes of a text, or through those that start a line,
is a search for the least position at which something is found. -/

namespace ShaderPair.Text

def slice (text : Text) (start finish : Nat) : Text := (text.drop start).take (finish - start)

def StartsLine (text : Text) (start : Nat) : Prop := start = 0 ∨ text[start - 1]? = some '\n'

/-- A line goes from its start to the line feed that closes it, or to the end of the text. -/
structure IsLine (text : Text) (start finish : Nat) : Prop where
  ordered : start ≤ finish
  opened : StartsLine text start
  unbroken : ∀ position, start ≤ position → position < finish → text[position]? ≠ some '\n'
  closed : finish = text.length ∨ text[finish]? = some '\n'

/-! Slices. -/

theorem drop_sub (text : Text) {start finish : Nat} (ordered : start ≤ finish) :
    (text.drop start).drop (finish - start) = text.drop finish := by
  rw [List.drop_drop, Nat.add_sub_cancel' ordered]

theorem slice_append (text : Text) {start middle finish : Nat} (first : start ≤ middle) (second : middle ≤ finish) :
    slice text start middle ++ slice text middle finish = slice text start finish := by
  have whole : finish - start = (middle - start) + (finish - middle) := by omega
  rw [slice, slice, slice, whole, ← drop_sub text first, List.take_add]

theorem slice_drop (text : Text) {start finish : Nat} (ordered : start ≤ finish) :
    slice text start finish ++ text.drop finish = text.drop start := by
  rw [slice, ← drop_sub text ordered, List.take_append_drop]

theorem slice_slice (text : Text) {start stop first last : Nat} (within : start + last ≤ stop) :
    slice (slice text start stop) first last = slice text (start + first) (start + last) := by
  have bound : last - first ≤ stop - start - first := by omega
  have width : start + last - (start + first) = last - first := by omega
  rw [slice, slice, slice, List.drop_take, List.drop_drop, List.take_take, Nat.min_eq_left bound, width]

theorem length_slice {text : Text} {start finish : Nat} (ordered : start ≤ finish) (within : finish ≤ text.length) :
    start + (slice text start finish).length = finish := by
  rw [slice, List.length_take, List.length_drop]
  omega

theorem getElem?_slice (text : Text) {start finish index : Nat} (inside : start + index < finish) :
    (slice text start finish)[index]? = text[start + index]? := by
  rw [slice, List.getElem?_take_of_lt (by omega), List.getElem?_drop]

theorem mem_slice {text : Text} {start finish : Nat} {c : Char} :
    c ∈ slice text start finish ↔ ∃ position, start ≤ position ∧ position < finish ∧ text[position]? = some c := by
  rw [slice, List.mem_iff_getElem?]
  constructor
  · intro inside
    obtain ⟨index, held⟩ := inside
    rw [List.getElem?_take] at held
    split at held
    · next below =>
      rw [List.getElem?_drop] at held
      exact ⟨start + index, by omega, by omega, held⟩
    · cases held
  · intro inside
    obtain ⟨position, above, below, held⟩ := inside
    refine ⟨position - start, ?_⟩
    rw [List.getElem?_take_of_lt (by omega), List.getElem?_drop]
    rwa [show start + (position - start) = position by omega]

theorem feed_not_mem_slice {text : Text} {start finish : Nat} :
    '\n' ∉ slice text start finish ↔
      ∀ position, start ≤ position → position < finish → text[position]? ≠ some '\n' := by
  rw [mem_slice]
  constructor
  · intro absent position above below feed
    exact absent ⟨position, above, below, feed⟩
  · intro unbroken inside
    obtain ⟨position, above, below, feed⟩ := inside
    exact unbroken position above below feed

/-! Lines. -/

theorem exists_line_start (text : Text) (position : Nat) :
    ∃ start ≤ position, StartsLine text start ∧
      ∀ index, start ≤ index → index < position → text[index]? ≠ some '\n' := by
  induction position with
  | zero => exact ⟨0, Nat.le_refl 0, .inl rfl, fun index _ below => absurd below (Nat.not_lt_zero index)⟩
  | succ position ih =>
    by_cases feed : text[position]? = some '\n'
    · refine ⟨position + 1, Nat.le_refl _, .inr feed, ?_⟩
      intro index above below
      omega
    · obtain ⟨start, before, starts, unbroken⟩ := ih
      refine ⟨start, by omega, starts, ?_⟩
      intro index above below
      by_cases last : index = position
      · rwa [last]
      · exact unbroken index above (by omega)

theorem exists_line_finish {text : Text} {position : Nat} (within : position ≤ text.length) :
    ∃ finish ≥ position, (finish = text.length ∨ text[finish]? = some '\n') ∧
      ∀ index, position ≤ index → index < finish → text[index]? ≠ some '\n' := by
  induction remaining : text.length - position generalizing position with
  | zero =>
    refine ⟨position, Nat.le_refl _, .inl (by omega), ?_⟩
    intro index above below
    omega
  | succ remaining ih =>
    by_cases feed : text[position]? = some '\n'
    · refine ⟨position, Nat.le_refl _, .inr feed, ?_⟩
      intro index above below
      omega
    · have next : position + 1 ≤ text.length := by omega
      obtain ⟨finish, after, closed, unbroken⟩ := ih next (by omega)
      refine ⟨finish, by omega, closed, ?_⟩
      intro index above below
      by_cases first : index = position
      · rwa [first]
      · exact unbroken index (by omega) below

theorem exists_isLine {text : Text} {position : Nat} (within : position ≤ text.length) :
    ∃ start finish, IsLine text start finish ∧ start ≤ position ∧ position ≤ finish := by
  obtain ⟨start, before, opened, early⟩ := exists_line_start text position
  obtain ⟨finish, after, closed, late⟩ := exists_line_finish within
  refine ⟨start, finish, ⟨by omega, opened, ?_, closed⟩, before, after⟩
  intro index above below
  rcases Nat.lt_or_ge index position with left | right
  · exact early index above left
  · exact late index right below

theorem StartsLine.le_length {text : Text} {start : Nat} (starts : StartsLine text start) : start ≤ text.length := by
  rcases starts with zero | feed
  · omega
  · have bound := (List.getElem?_eq_some_iff.mp feed).1
    omega

theorem startsLine_succ {text : Text} {position : Nat} :
    StartsLine text (position + 1) ↔ text[position]? = some '\n' := by
  simp [StartsLine]

theorem exists_isLine_of_start {text : Text} {start : Nat} (starts : StartsLine text start) :
    ∃ finish, IsLine text start finish := by
  obtain ⟨finish, after, closed, unbroken⟩ := exists_line_finish starts.le_length
  exact ⟨finish, after, starts, unbroken, closed⟩

namespace IsLine

variable {text : Text} {start finish : Nat}

theorem le_length (line : IsLine text start finish) : finish ≤ text.length := by
  rcases line.closed with last | feed
  · omega
  · have bound := (List.getElem?_eq_some_iff.mp feed).1
    omega

/-- A position that no line feed parts from the start of a line is on that line. -/
theorem le_finish (line : IsLine text start finish) {position : Nat} (within : position ≤ text.length)
    (unbroken : ∀ index, start ≤ index → index < position → text[index]? ≠ some '\n') : position ≤ finish := by
  by_contra beyond
  rcases line.closed with last | feed
  · omega
  · exact unbroken finish line.ordered (by omega) feed

theorem start_le (line : IsLine text start finish) {other : Nat} (starts : StartsLine text other)
    (within : other ≤ finish) : other ≤ start := by
  by_contra later
  rcases starts with zero | feed
  · omega
  · exact line.unbroken (other - 1) (by omega) (by omega) feed

theorem unique (line : IsLine text start finish) {otherStart otherFinish position : Nat}
    (other : IsLine text otherStart otherFinish) (above : start ≤ position) (below : position ≤ finish)
    (otherAbove : otherStart ≤ position) (otherBelow : position ≤ otherFinish) :
    start = otherStart ∧ finish = otherFinish := by
  have starts : start = otherStart := by
    apply Nat.le_antisymm
    · exact other.start_le line.opened (by omega)
    · exact line.start_le other.opened (by omega)
  subst starts
  refine ⟨rfl, ?_⟩
  apply Nat.le_antisymm
  · exact other.le_finish line.le_length line.unbroken
  · exact line.le_finish other.le_length other.unbroken

theorem takeWhile_eq_slice (line : IsLine text start finish) {position : Nat} (above : start ≤ position)
    (below : position ≤ finish) : (text.drop position).takeWhile (· != '\n') = slice text position finish := by
  rw [← slice_drop text below]
  apply takeWhile_run
  · intro c inside
    obtain ⟨index, after, before, held⟩ := mem_slice.mp inside
    rw [bne_iff_ne]
    intro feed
    rw [feed] at held
    exact line.unbroken index (by omega) before held
  · intro c starts
    rw [Option.mem_def, List.head?_drop] at starts
    rcases line.closed with last | feed
    · rw [List.getElem?_eq_none (by omega)] at starts
      cases starts
    · rw [feed] at starts
      cases starts
      rfl

end IsLine

/-! Searches through suffixes, by position. -/

section

variable {α : Type} {look : Text → Option α} {text : Text}

theorem findSome?_suffixes_eq_some {value : α} (found : (suffixes text).findSome? look = some value) :
    ∃ position, look (text.drop position) = some value ∧ ∀ earlier < position, look (text.drop earlier) = none := by
  induction text with
  | nil =>
    refine ⟨0, ?_, fun earlier before => absurd before (Nat.not_lt_zero earlier)⟩
    rw [suffixes, List.findSome?_singleton] at found
    exact found
  | cons c rest ih =>
    rw [suffixes, List.findSome?_cons] at found
    cases here : look (c :: rest) with
    | some first =>
      rw [here] at found
      exact ⟨0, here.trans found, fun earlier before => absurd before (Nat.not_lt_zero earlier)⟩
    | none =>
      rw [here] at found
      obtain ⟨position, hit, before⟩ := ih found
      refine ⟨position + 1, hit, ?_⟩
      intro earlier below
      cases earlier with
      | zero => exact here
      | succ earlier => exact before earlier (by omega)

theorem findSome?_suffixes_eq_none (missing : (suffixes text).findSome? look = none) (position : Nat) :
    look (text.drop position) = none := by
  induction text generalizing position with
  | nil =>
    rw [suffixes, List.findSome?_singleton] at missing
    rwa [List.drop_nil]
  | cons c rest ih =>
    rw [suffixes, List.findSome?_cons] at missing
    cases here : look (c :: rest) with
    | some first =>
      rw [here] at missing
      cases missing
    | none =>
      rw [here] at missing
      cases position with
      | zero => exact here
      | succ position => exact ih missing position

theorem after?_drop (mark : Char) (text : Text) (position : Nat) :
    after? [mark] (text.drop position) =
      if text[position]? = some mark then some (text.drop (position + 1)) else none := by
  rw [← List.head?_drop, ← List.tail_drop]
  cases text.drop position with
  | nil => rfl
  | cons c rest =>
    by_cases here : c = mark
    · subst here
      rw [if_pos List.head?_cons]
      exact after?_cons c [] rest
    · have other : (c :: rest).head? ≠ some mark := fun same => here (Option.some.inj same)
      rw [if_neg other, Option.eq_none_iff_forall_ne_some]
      intro tail found
      exact here (List.cons.inj (after?_eq_some.mp found)).1

theorem findSome?_rests (mark : Char) (look : Text → Option α) (text : Text) :
    (rests mark text).findSome? look = (suffixes text).findSome? fun suffix => (after? [mark] suffix).bind look := by
  rw [rests]
  induction suffixes text with
  | nil => rfl
  | cons suffix later ih =>
    rw [List.findSome?_cons, ← ih, List.filterMap_cons]
    cases after? [mark] suffix with
    | none => rfl
    | some rest => rw [List.findSome?_cons, Option.bind_some]

theorem findSome?_lineSuffixes_eq_some {value : α} (found : (lineSuffixes text).findSome? look = some value) :
    ∃ start, StartsLine text start ∧ look (text.drop start) = some value ∧
      ∀ earlier < start, StartsLine text earlier → look (text.drop earlier) = none := by
  rw [lineSuffixes_eq, List.findSome?_cons] at found
  cases first : look text with
  | some hit =>
    rw [first] at found
    exact ⟨0, .inl rfl, first.trans found, fun earlier before => absurd before (Nat.not_lt_zero earlier)⟩
  | none =>
    rw [first] at found
    rw [findSome?_rests] at found
    obtain ⟨position, hit, before⟩ := findSome?_suffixes_eq_some found
    rw [after?_drop] at hit
    split at hit
    · next feed =>
      refine ⟨position + 1, .inr feed, hit, ?_⟩
      intro earlier below starts
      cases earlier with
      | zero => exact first
      | succ earlier =>
        have none := before earlier (by omega)
        rw [after?_drop] at none
        rwa [if_pos (startsLine_succ.mp starts)] at none
    · cases hit

theorem findSome?_lineSuffixes_eq_none (missing : (lineSuffixes text).findSome? look = none) {start : Nat}
    (starts : StartsLine text start) : look (text.drop start) = none := by
  rw [lineSuffixes_eq, List.findSome?_cons] at missing
  cases first : look text with
  | some hit =>
    rw [first] at missing
    cases missing
  | none =>
    rw [first] at missing
    cases start with
    | zero => exact first
    | succ position =>
      rw [findSome?_rests] at missing
      have none := findSome?_suffixes_eq_none missing position
      rw [after?_drop] at none
      rwa [if_pos (startsLine_succ.mp starts)] at none

end

end ShaderPair.Text
