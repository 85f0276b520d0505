import Mathlib.Data.List.TakeWhile
import Mathlib.Order.Bounds.Basic
import Mathlib.Order.Nat
import ShaderPair.Proofs.TextPositions

/-! Directives by position. The accessors walk through the source and stop at the first suffix that starts
with a directive, or go through a line to its end and come back. Here it is said at which positions a
directive stands, and the main statement says which position each accessor reads from: the least one for an
entry point, and for the load order the greatest one on the line of the least. -/

namespace ShaderPair

namespace Text

def wideBlanks : List Nat := [0x85, 0xA0, 0x1680, 0x2000, 0x2001, 0x2002, 0x2003, 0x2004, 0x2005, 0x2006, 0x2007,
  0x2008, 0x2009, 0x200A, 0x2028, 0x2029, 0x202F, 0x205F, 0x3000]

theorem isWordChar_of_isBlank {c : Char} (blank : isBlank c = true) : isWordChar c = false := by
  unfold isWordChar
  split
  · exact isIdentRest_of_isBlank blank
  · next wide =>
    have listed : c.toNat ∈ wideBlanks := by
      simp only [isBlank, Bool.or_eq_true, Bool.and_eq_true, decide_eq_true_eq, beq_iff_eq] at blank
      simp only [wideBlanks, List.mem_cons, List.not_mem_nil, or_false]
      omega
    have none : ∀ code ∈ wideBlanks, (wordRanges.any fun range => range.1 ≤ code && code ≤ range.2) = false := by
      decide +kernel
    exact none c.toNat listed

theorem stops_dropWhile (belongs : Char → Bool) (text : Text) :
    ∀ c ∈ (text.dropWhile belongs).head?, belongs c = false := by
  intro c head
  have stop := List.head?_dropWhile_not belongs text
  rw [Option.mem_def.mp head] at stop
  simpa using stop

end Text

namespace Directive

open Text

/-! Directives at positions. -/

/-- A directive stands between two positions: the mark, blanks and the name. -/
def Spans (name source : Text) (start finish : Nat) : Prop :=
  finish ≤ source.length ∧ ∃ blanks, AreBlanks blanks ∧ slice source start finish = "#o3d" ++ blanks ++ name

def NamesEntry (name source : Text) (position : Nat) : Prop :=
  ∃ finish blanks c rest, Spans name source position finish ∧ AreBlanks blanks ∧
    source.drop finish = blanks ++ c :: rest ∧ isWordChar c = true

def EntryAt (name source : Text) (position : Nat) (word : Text) : Prop :=
  ∃ finish blanks rest, Spans name source position finish ∧ AreBlanks blanks ∧
    source.drop finish = blanks ++ word ++ rest ∧ word ≠ [] ∧ (∀ c ∈ word, isWordChar c = true) ∧
    ∀ c ∈ rest.head?, isWordChar c = false

/-- A load order directive stands between two positions, and its name is a whole word. -/
def LoadOrderAt (source : Text) (start finish : Nat) : Prop :=
  Spans loadOrderName source start finish ∧ ∀ c ∈ source[finish]?, isWordChar c = false

def HoldsLoadOrder (source : Text) (position : Nat) : Prop := ∃ finish, LoadOrderAt source position finish

/-- The load order directive that counts: on the line where the first one starts, the one that starts last. -/
structure Decides (source : Text) (start stop position finish : Nat) : Prop where
  line : IsLine source start stop
  first : ∃ first, IsLeast {p | HoldsLoadOrder source p} first ∧ start ≤ first ∧ first ≤ stop
  last : IsGreatest {p | HoldsLoadOrder source p ∧ start ≤ p ∧ p ≤ stop} position
  word : LoadOrderAt source position finish

/-- An entry point is the word after the first directive that has one. -/
def GivesEntry (name source word : Text) : Prop :=
  ∃ position, IsLeast {p | NamesEntry name source p} position ∧ EntryAt name source position word

/-- The load order goes from the start of the line with the directive that counts to the end of the line on
which its name ends. -/
def GivesLoadOrder (source value : Text) : Prop :=
  ∃ start stop position finish lastStart lastStop, Decides source start stop position finish ∧
    IsLine source lastStart lastStop ∧ lastStart ≤ finish ∧ finish ≤ lastStop ∧
    value = trim (slice source start lastStop)

/-! What is read at a position. -/

theorem afterBlanks?_eq_some {text rest : Text} :
    afterBlanks? text = some rest ↔
      ∃ blanks, AreBlanks blanks ∧ text = blanks ++ rest ∧ ∀ c ∈ rest.head?, isBlank c = false := by
  unfold afterBlanks?
  constructor
  · intro found
    split at found
    · next starts =>
      cases found
      refine ⟨text.takeWhile isBlank, ⟨?_, fun c inside => List.mem_takeWhile_imp inside⟩,
        List.takeWhile_append_dropWhile.symm, stops_dropWhile isBlank text⟩
      cases text with
      | nil => cases starts
      | cons c later =>
        have blank : isBlank c = true := starts
        simp [blank]
    · cases found
  · intro parts
    obtain ⟨blanks, ⟨filled, inside⟩, rfl, stops⟩ := parts
    cases blanks with
    | nil => exact absurd rfl filled
    | cons c later =>
      have starts : (c :: later ++ rest).head?.any isBlank = true := inside c List.mem_cons_self
      rw [if_pos starts, trimStart, dropWhile_run inside stops]

theorem after?_iff_opened {name : Text} (valid : isIdentifier name = true) {text rest : Text} :
    Directive.after? name text = some rest ↔
      ∃ blanks, AreBlanks blanks ∧ text = "#o3d" ++ blanks ++ name ++ rest := by
  have steps : Directive.after? name text =
      (Text.after? "#o3d" text).bind fun rest => (afterBlanks? rest).bind (Text.after? name) := rfl
  rw [steps, Option.bind_eq_some_iff]
  constructor
  · intro found
    obtain ⟨marked, opened, spaced⟩ := found
    obtain ⟨named, gapped, ends⟩ := Option.bind_eq_some_iff.mp spaced
    obtain ⟨blanks, areBlanks, rfl, _⟩ := afterBlanks?_eq_some.mp gapped
    refine ⟨blanks, areBlanks, ?_⟩
    rw [Text.after?_eq_some.mp opened, Text.after?_eq_some.mp ends]
    simp
  · intro parts
    obtain ⟨blanks, areBlanks, rfl⟩ := parts
    have stops : ∀ c ∈ (name ++ rest).head?, isBlank c = false := fun c head =>
      isBlank_of_isIdentStart (isIdentStart_of_head valid head)
    refine ⟨blanks ++ (name ++ rest), Text.after?_eq_some.mpr (by simp), ?_⟩
    refine Option.bind_eq_some_iff.mpr ⟨name ++ rest, afterBlanks?_eq_some.mpr ?_, Text.after?_eq_some.mpr rfl⟩
    exact ⟨blanks, areBlanks, rfl, stops⟩

theorem Spans.ordered {name source : Text} {start finish : Nat} (spans : Spans name source start finish) :
    start ≤ finish := by
  obtain ⟨_, blanks, _, whole⟩ := spans
  by_contra beyond
  have empty : slice source start finish = [] := by
    rw [slice, Nat.sub_eq_zero_of_le (by omega), List.take_zero]
  rw [empty] at whole
  cases whole

theorem spans_iff {name : Text} (valid : isIdentifier name = true) {source : Text} {start finish : Nat} :
    Spans name source start finish ↔
      start ≤ finish ∧ finish ≤ source.length ∧
        Directive.after? name (source.drop start) = some (source.drop finish) := by
  rw [after?_iff_opened valid]
  constructor
  · intro spans
    have ordered := spans.ordered
    obtain ⟨within, blanks, areBlanks, whole⟩ := spans
    refine ⟨ordered, within, blanks, areBlanks, ?_⟩
    rw [← whole, slice_drop source ordered]
  · intro spans
    obtain ⟨ordered, within, blanks, areBlanks, opened⟩ := spans
    refine ⟨within, blanks, areBlanks, ?_⟩
    rwa [← slice_drop source ordered, List.append_left_inj] at opened

theorem exists_finish {name : Text} (valid : isIdentifier name = true) {source rest : Text} {start : Nat}
    (found : Directive.after? name (source.drop start) = some rest) :
    ∃ finish, Spans name source start finish ∧ rest = source.drop finish := by
  obtain ⟨blanks, areBlanks, opened⟩ := (after?_iff_opened valid).mp found
  have lengths := congrArg List.length opened
  rw [List.length_drop, List.length_append, List.length_append, List.length_append] at lengths
  have marked : "#o3d".toList.length = 4 := rfl
  have later : rest = source.drop (source.length - rest.length) :=
    List.suffix_iff_eq_drop.mp (List.IsSuffix.trans ⟨_, opened.symm⟩ (List.drop_suffix start source))
  refine ⟨source.length - rest.length, (spans_iff valid).mpr ⟨by omega, by omega, ?_⟩, later⟩
  rwa [← later]

theorem afterLoadOrder?_eq_some {text rest : Text} :
    afterLoadOrder? text = some rest ↔
      Directive.after? loadOrderName text = some rest ∧ ∀ c ∈ rest.head?, isWordChar c = false := by
  have steps : afterLoadOrder? text = (Directive.after? loadOrderName text).bind fun rest =>
      if rest.head?.any isWordChar then none else some rest := rfl
  rw [steps, Option.bind_eq_some_iff]
  constructor
  · intro found
    obtain ⟨tail, opened, ended⟩ := found
    split at ended
    · cases ended
    · next stops =>
      cases ended
      refine ⟨opened, ?_⟩
      intro c head
      rw [Option.mem_def.mp head] at stops
      exact (Bool.not_eq_true _).mp stops
  · intro both
    refine ⟨rest, both.1, ?_⟩
    have stops : rest.head?.any isWordChar = false := by
      cases head : rest.head? with
      | none => rfl
      | some c => exact both.2 c head
    rw [stops]
    rfl

theorem loadOrderAt_iff {source : Text} {start finish : Nat} :
    LoadOrderAt source start finish ↔
      start ≤ finish ∧ finish ≤ source.length ∧ afterLoadOrder? (source.drop start) = some (source.drop finish) := by
  rw [LoadOrderAt, spans_iff (by decide), afterLoadOrder?_eq_some, List.head?_drop]
  simp only [and_assoc]

theorem exists_loadOrderAt {source rest : Text} {start : Nat}
    (found : afterLoadOrder? (source.drop start) = some rest) :
    ∃ finish, LoadOrderAt source start finish ∧ rest = source.drop finish := by
  obtain ⟨opened, stops⟩ := afterLoadOrder?_eq_some.mp found
  obtain ⟨finish, spans, rfl⟩ := exists_finish (by decide) opened
  rw [List.head?_drop] at stops
  exact ⟨finish, ⟨spans, stops⟩, rfl⟩

theorem LoadOrderAt.unique {source : Text} {position finish otherFinish : Nat}
    (ends : LoadOrderAt source position finish) (other : LoadOrderAt source position otherFinish) :
    finish = otherFinish := by
  obtain ⟨_, within, found⟩ := loadOrderAt_iff.mp ends
  obtain ⟨_, otherWithin, otherFound⟩ := loadOrderAt_iff.mp other
  rw [found, Option.some.injEq] at otherFound
  have lengths := congrArg List.length otherFound
  rw [List.length_drop, List.length_drop] at lengths
  omega

/-! Entry points. -/

theorem word?_eq_some {text word : Text} :
    word? text = some word ↔
      ∃ rest, text = word ++ rest ∧ word ≠ [] ∧ (∀ c ∈ word, isWordChar c = true) ∧
        ∀ c ∈ rest.head?, isWordChar c = false := by
  simp only [word?]
  constructor
  · intro found
    split at found
    · cases found
    · next filled =>
      cases found
      refine ⟨text.dropWhile isWordChar, List.takeWhile_append_dropWhile.symm, ?_,
        fun c inside => List.mem_takeWhile_imp inside, stops_dropWhile isWordChar text⟩
      intro empty
      exact filled (List.isEmpty_iff.mpr empty)
  · intro parts
    obtain ⟨rest, rfl, filled, inside, stops⟩ := parts
    rw [takeWhile_run inside stops, if_neg (by simpa using filled)]

theorem entryAt_iff {name : Text} (valid : isIdentifier name = true) {source : Text} {position : Nat} {word : Text} :
    EntryAt name source position word ↔ wordAt? name (source.drop position) = some word := by
  have steps : wordAt? name (source.drop position) =
      (Directive.after? name (source.drop position)).bind fun rest => (afterBlanks? rest).bind word? := rfl
  rw [steps, Option.bind_eq_some_iff]
  constructor
  · intro entry
    obtain ⟨finish, blanks, rest, spans, areBlanks, same, filled, inside, stops⟩ := entry
    refine ⟨source.drop finish, ((spans_iff valid).mp spans).2.2, ?_⟩
    -- Blanks and words have no character in common, so all blanks before the word are skipped.
    have solid : ∀ c ∈ (word ++ rest).head?, isBlank c = false := by
      intro c head
      cases word with
      | nil => exact absurd rfl filled
      | cons first later =>
        cases head
        rw [← Bool.not_eq_true]
        intro blank
        have wordChar := inside c List.mem_cons_self
        rw [isWordChar_of_isBlank blank] at wordChar
        cases wordChar
    rw [List.append_assoc] at same
    refine Option.bind_eq_some_iff.mpr ⟨word ++ rest, afterBlanks?_eq_some.mpr ⟨blanks, areBlanks, same, solid⟩, ?_⟩
    exact word?_eq_some.mpr ⟨rest, rfl, filled, inside, stops⟩
  · intro found
    obtain ⟨following, opened, spaced⟩ := found
    obtain ⟨named, gapped, read⟩ := Option.bind_eq_some_iff.mp spaced
    obtain ⟨blanks, areBlanks, rfl, _⟩ := afterBlanks?_eq_some.mp gapped
    obtain ⟨rest, rfl, run⟩ := word?_eq_some.mp read
    obtain ⟨finish, spans, same⟩ := exists_finish valid opened
    rw [← List.append_assoc] at same
    exact ⟨finish, blanks, rest, spans, areBlanks, same.symm, run⟩

theorem namesEntry_iff {name source : Text} {position : Nat} :
    NamesEntry name source position ↔ ∃ word, EntryAt name source position word := by
  constructor
  · intro names
    obtain ⟨finish, blanks, c, rest, spans, areBlanks, same, word⟩ := names
    refine ⟨c :: rest.takeWhile isWordChar, finish, blanks, rest.dropWhile isWordChar, spans, areBlanks, ?_,
      List.cons_ne_nil _ _, ?_, stops_dropWhile isWordChar rest⟩
    · rw [same, List.append_assoc, List.cons_append, List.takeWhile_append_dropWhile]
    · intro other inside
      rcases List.mem_cons.mp inside with rfl | later
      · exact word
      · exact List.mem_takeWhile_imp later
  · intro entry
    obtain ⟨word, finish, blanks, rest, spans, areBlanks, same, filled, inside, _⟩ := entry
    cases word with
    | nil => exact absurd rfl filled
    | cons c later =>
      exact ⟨finish, blanks, c, later ++ rest, spans, areBlanks, by rw [same]; simp, inside c List.mem_cons_self⟩

/-! The load order on one line. -/

theorem loadOrderLine?_eq_none {text : Text} (missing : loadOrderLine? text = none) {position : Nat}
    (sameLine : '\n' ∉ text.take position) : afterLoadOrder? (text.drop position) = none := by
  induction text generalizing position with
  | nil => rw [List.drop_nil]; rfl
  | cons c rest ih =>
    by_cases feed : c = '\n'
    · cases position with
      | zero => exact afterLoadOrder?_elsewhere (by simp [feed])
      | succ position => exact absurd (by simp [feed]) sameLine
    · rw [loadOrderLine?_cons feed, Option.or_eq_none_iff, Option.map_eq_none_iff, Option.map_eq_none_iff]
        at missing
      cases position with
      | zero => exact missing.2
      | succ position =>
        rw [List.take_succ_cons, List.mem_cons, not_or] at sameLine
        exact ih missing.1 sameLine.2

theorem loadOrderLine?_eq_some {text line : Text} (found : loadOrderLine? text = some line) :
    ∃ position rest, '\n' ∉ text.take position ∧ afterLoadOrder? (text.drop position) = some rest ∧
      line = text.take position ++ lineThrough (text.drop position) rest ∧
      ∀ later, position < later → '\n' ∉ text.take later → afterLoadOrder? (text.drop later) = none := by
  induction text generalizing line with
  | nil => cases found
  | cons c rest ih =>
    by_cases feed : c = '\n'
    · rw [loadOrderLine?, if_pos (by simpa using feed)] at found
      cases found
    · rw [loadOrderLine?_cons feed] at found
      rcases Option.or_eq_some_iff.mp found with further | ⟨nothing, here⟩
      · obtain ⟨tail, deeper, rfl⟩ := Option.map_eq_some_iff.mp further
        obtain ⟨position, following, sameLine, directive, rfl, last⟩ := ih deeper
        refine ⟨position + 1, following, ?_, directive, rfl, ?_⟩
        · rw [List.take_succ_cons, List.mem_cons, not_or]
          exact ⟨Ne.symm feed, sameLine⟩
        · intro later after unbroken
          cases later with
          | zero => omega
          | succ later =>
            rw [List.take_succ_cons, List.mem_cons, not_or] at unbroken
            exact last later (by omega) unbroken.2
      · obtain ⟨following, directive, rfl⟩ := Option.map_eq_some_iff.mp here
        refine ⟨0, following, List.not_mem_nil, directive, rfl, ?_⟩
        intro later after unbroken
        cases later with
        | zero => omega
        | succ later =>
          rw [List.take_succ_cons, List.mem_cons, not_or] at unbroken
          exact loadOrderLine?_eq_none (Option.map_eq_none_iff.mp nothing) unbroken.2

/-! The load order of a source. -/

theorem holdsLoadOrder_drop {source : Text} {start position : Nat} (holds : HoldsLoadOrder source position)
    (after : start ≤ position) : afterLoadOrder? ((source.drop start).drop (position - start)) ≠ none := by
  obtain ⟨finish, ends⟩ := holds
  rw [drop_sub source after, (loadOrderAt_iff.mp ends).2.2]
  exact Option.some_ne_none _

theorem loadOrderLine?_of_holds {source : Text} {start position : Nat} (holds : HoldsLoadOrder source position)
    (after : start ≤ position) (unbroken : '\n' ∉ slice source start position) :
    loadOrderLine? (source.drop start) ≠ none :=
  fun missing => holdsLoadOrder_drop holds after (loadOrderLine?_eq_none missing unbroken)

theorem decides_of_found {source line : Text} (found : (lineSuffixes source).findSome? loadOrderLine? = some line) :
    ∃ start stop position finish lastStart lastStop, Decides source start stop position finish ∧
      IsLine source lastStart lastStop ∧ lastStart ≤ finish ∧ finish ≤ lastStop ∧
      line = slice source start lastStop := by
  classical
  obtain ⟨start, starts, here, earlier⟩ := findSome?_lineSuffixes_eq_some found
  obtain ⟨offset, rest, sameLine, directive, rfl, last⟩ := loadOrderLine?_eq_some here
  rw [List.drop_drop] at directive
  obtain ⟨finish, ends, rfl⟩ := exists_loadOrderAt directive
  obtain ⟨stop, whole⟩ := exists_isLine_of_start starts
  obtain ⟨ordered, within, _⟩ := loadOrderAt_iff.mp ends
  have opening : (source.drop start).take offset = slice source start (start + offset) := by
    rw [slice, Nat.add_sub_cancel_left]
  rw [opening] at sameLine
  have reached : start + offset ≤ stop := whole.le_finish (by omega) (feed_not_mem_slice.mp sameLine)
  have present : ∃ position, HoldsLoadOrder source position := ⟨start + offset, finish, ends⟩
  have least := Nat.isLeast_find present
  have notAfter : Nat.find present ≤ start + offset := least.2 ⟨finish, ends⟩
  have notBefore : start ≤ Nat.find present := by
    by_contra before
    obtain ⟨lineStart, above, startsLine, unbroken⟩ := exists_line_start source (Nat.find present)
    exact loadOrderLine?_of_holds least.1 above (feed_not_mem_slice.mpr unbroken)
      (earlier lineStart (by omega) startsLine)
  obtain ⟨lastStart, lastStop, lastLine, above, below⟩ := exists_isLine within
  refine ⟨start, stop, start + offset, finish, lastStart, lastStop,
    ⟨whole, ⟨Nat.find present, least, notBefore, by omega⟩, ⟨⟨⟨finish, ends⟩, by omega, reached⟩, ?_⟩, ends⟩,
    lastLine, above, below, ?_⟩
  · intro other onLine
    obtain ⟨holds, notEarlier, notLater⟩ := onLine
    by_contra beyond
    refine holdsLoadOrder_drop holds notEarlier (last (other - start) (by omega) ?_)
    exact feed_not_mem_slice.mpr fun index after before => whole.unbroken index after (by omega)
  · rw [opening, List.drop_drop, ← slice_drop source ordered, lineThrough_append,
      lastLine.takeWhile_eq_slice above below, slice_append source ordered below,
      slice_append source (by omega) (by omega)]

theorem Decides.unique {source : Text} {start stop position finish otherStart otherStop otherPosition otherFinish : Nat}
    (decides : Decides source start stop position finish)
    (other : Decides source otherStart otherStop otherPosition otherFinish) :
    start = otherStart ∧ position = otherPosition ∧ finish = otherFinish := by
  obtain ⟨first, least, above, below⟩ := decides.first
  obtain ⟨otherFirst, otherLeast, otherAbove, otherBelow⟩ := other.first
  obtain rfl := least.unique otherLeast
  obtain ⟨rfl, rfl⟩ := decides.line.unique other.line above below otherAbove otherBelow
  obtain rfl := decides.last.unique other.last
  exact ⟨rfl, rfl, decides.word.unique other.word⟩

theorem GivesLoadOrder.unique {source value otherValue : Text} (gives : GivesLoadOrder source value)
    (other : GivesLoadOrder source otherValue) : value = otherValue := by
  obtain ⟨start, stop, position, finish, lastStart, lastStop, decides, line, above, below, rfl⟩ := gives
  obtain ⟨_, _, _, _, otherLastStart, otherLastStop, otherDecides, otherLine, otherAbove, otherBelow, rfl⟩ := other
  obtain ⟨rfl, rfl, rfl⟩ := decides.unique otherDecides
  obtain ⟨rfl, rfl⟩ := line.unique otherLine above below otherAbove otherBelow
  rfl

theorem GivesEntry.unique {name source word otherWord : Text} (valid : isIdentifier name = true)
    (gives : GivesEntry name source word) (other : GivesEntry name source otherWord) : word = otherWord := by
  obtain ⟨position, least, entry⟩ := gives
  obtain ⟨otherPosition, otherLeast, otherEntry⟩ := other
  obtain rfl := least.unique otherLeast
  rw [entryAt_iff valid] at entry otherEntry
  exact Option.some.inj (entry.symm.trans otherEntry)

/-! Outcomes. -/

/-- A search that succeeds where the directive holds at some position, gives the one value there is, and else
names the directive that is missing. -/
structure Searches (outcome : Except ShaderError Text) (directive : Text) (holds : Nat → Prop)
    (gives : Text → Prop) : Prop where
  succeeds : (∃ value, outcome = .ok value) ↔ ∃ position, holds position
  gives_iff : ∀ value, outcome = .ok value ↔ gives value
  fails : ∀ cause, outcome = .error cause ↔ cause = .missingDirective directive ∧ ∀ position, ¬holds position

def orMissing (directive : Text) : Option Text → Except ShaderError Text
  | some value => .ok value
  | none => .error (.missingDirective directive)

theorem searches_orMissing {found : Option Text} {directive : Text} {holds : Nat → Prop} {gives : Text → Prop}
    (given : ∀ value, found = some value → gives value)
    (unique : ∀ value other, gives value → gives other → value = other)
    (present : ∀ value, gives value → ∃ position, holds position)
    (missing : found = none → ∀ position, ¬holds position) :
    Searches (orMissing directive found) directive holds gives := by
  cases found with
  | none =>
    have absent := missing rfl
    have nothing : ∀ value, ¬gives value := by
      intro value gave
      obtain ⟨position, held⟩ := present value gave
      exact absent position held
    refine ⟨?_, ?_, ?_⟩
    · simp [orMissing, absent]
    · simp [orMissing, nothing]
    · intro cause
      simp [orMissing, absent, eq_comm]
  | some value =>
    have gave := given value rfl
    obtain ⟨position, held⟩ := present value gave
    refine ⟨?_, ?_, ?_⟩
    · exact ⟨fun _ => ⟨position, held⟩, fun _ => ⟨value, rfl⟩⟩
    · intro other
      constructor
      · intro same
        cases same
        exact gave
      · intro gaveOther
        rw [unique other value gaveOther gave]
        rfl
    · intro cause
      constructor
      · intro failed
        cases failed
      · intro absent
        exact absurd held (absent.2 position)

theorem searches_entryPoint (source : Text) (stage : Stage) :
    Searches (entryPoint source stage) stage.directive (NamesEntry stage.directive source)
      (GivesEntry stage.directive source) := by
  have valid : isIdentifier stage.directive = true := by cases stage <;> decide
  have outcome : entryPoint source stage =
      orMissing stage.directive ((suffixes source).findSome? (wordAt? stage.directive)) := by
    rw [entryPoint]
    cases (suffixes source).findSome? (wordAt? stage.directive) <;> rfl
  rw [outcome]
  apply searches_orMissing
  · intro word found
    obtain ⟨position, here, earlier⟩ := findSome?_suffixes_eq_some found
    have entry := (entryAt_iff valid).mpr here
    refine ⟨position, ⟨namesEntry_iff.mpr ⟨word, entry⟩, ?_⟩, entry⟩
    intro other names
    by_contra before
    obtain ⟨otherWord, otherEntry⟩ := namesEntry_iff.mp names
    have none := earlier other (by omega)
    rw [(entryAt_iff valid).mp otherEntry] at none
    cases none
  · intro word other
    exact GivesEntry.unique valid
  · intro word gives
    obtain ⟨position, least, _⟩ := gives
    exact ⟨position, least.1⟩
  · intro missing position names
    obtain ⟨word, entry⟩ := namesEntry_iff.mp names
    have none := findSome?_suffixes_eq_none missing position
    rw [(entryAt_iff valid).mp entry] at none
    cases none

theorem searches_loadOrder (source : Text) :
    Searches (loadOrder source) loadOrderName (HoldsLoadOrder source) (GivesLoadOrder source) := by
  have outcome : loadOrder source =
      orMissing loadOrderName (((lineSuffixes source).findSome? loadOrderLine?).map trim) := by
    rw [loadOrder]
    cases (lineSuffixes source).findSome? loadOrderLine? <;> rfl
  rw [outcome]
  apply searches_orMissing
  · intro value found
    obtain ⟨line, hit, rfl⟩ := Option.map_eq_some_iff.mp found
    obtain ⟨start, stop, position, finish, lastStart, lastStop, decides, lastLine, above, below, rfl⟩ :=
      decides_of_found hit
    exact ⟨start, stop, position, finish, lastStart, lastStop, decides, lastLine, above, below, rfl⟩
  · intro value other
    exact GivesLoadOrder.unique
  · intro value gives
    obtain ⟨_, _, position, finish, _, _, decides, _⟩ := gives
    exact ⟨position, finish, decides.word⟩
  · intro missing position holds
    obtain ⟨start, above, starts, unbroken⟩ := exists_line_start source position
    exact loadOrderLine?_of_holds holds above (feed_not_mem_slice.mpr unbroken)
      (findSome?_lineSuffixes_eq_none (Option.map_eq_none_iff.mp missing) starts)

/-- Entry points and the load order are read from the positions at which directives stand. An entry point comes
from the first directive with a word after it. The load order comes from the last directive on the line of the
first one, with all of that line before it and all of the line on which it ends after it. -/
theorem directives_by_position (source : Text) :
    (∀ stage : Stage, Searches (entryPoint source stage) stage.directive (NamesEntry stage.directive source)
      (GivesEntry stage.directive source)) ∧
      Searches (loadOrder source) loadOrderName (HoldsLoadOrder source) (GivesLoadOrder source) :=
  ⟨searches_entryPoint source, searches_loadOrder source⟩

-- The last directive on the first line with one ends on the next line, and both lines are given whole.
example : loadOrder "a\n b #o3d MatrixLoadOrder c #o3d \n MatrixLoadOrder d\n#o3d MatrixLoadOrder e" =
    .ok "b #o3d MatrixLoadOrder c #o3d \n MatrixLoadOrder d" := by decide +kernel

end Directive

end ShaderPair
