import Mathlib.Data.Finset.Card
import Mathlib.Data.List.TakeWhile
import ShaderPair.Proofs.Rows

/-! The grammar of a header. A line can be read or not whatever stands around it, so a header is accepted
exactly when all its lines can be read, and otherwise its fault is that of the first line that cannot. The
symbols of an accepted header are said through its variable lines alone. -/

namespace ShaderPair

theorem Table.size_ofPairs {α : Type} (pairs : List (Text × α)) :
    (Table.ofPairs pairs).size = (pairs.map Prod.fst).toFinset.card := by
  have same : (Table.ofPairs pairs).names.toFinset = (pairs.map Prod.fst).toFinset := by
    ext name
    rw [List.mem_toFinset, List.mem_toFinset, Table.mem_names_ofPairs]
  rw [← same, List.toFinset_card_of_nodup (Table.nodup_names_ofPairs pairs), Table.names, List.length_map]
  rfl

namespace Header

open Text (startsWith words lines)

/-! Lines that can be read. -/

/-- The parts of a variable line with the right number of fields. -/
def HasFields (line declaration semantic generated : Text) : Prop :=
  ∃ index used, fields line = [declaration, semantic, generated, index, used]

/-- A name to go by: a semantic, or a variable that is declared. -/
def IsNamed (declaration semantic : Text) : Prop := semantic ≠ [] ∨ 3 ≤ (words declaration).length

def IsVariable (line : Text) : Prop :=
  ∃ declaration semantic generated, HasFields line declaration semantic generated ∧
    bareName generated ≠ [] ∧ IsNamed declaration semantic

/-- A comment that is a variable line in full if it begins like one. -/
def WellFormed (line : Text) : Prop :=
  startsWith "//" line = true ∧ (startsWith "//var" line = true → IsVariable line)

def lineFault (number : Nat) (line : Text) : Fault :=
  if startsWith "//" line then
    match fields line with
    | [_, _, generated, _, _] => if bareName generated = [] then .emptyName number line else .noVariable number line
    | others => .fieldCount number others.length line
  else .notComment number line

theorem HasFields.unique {line declaration semantic generated otherDeclaration otherSemantic otherGenerated : Text}
    (first : HasFields line declaration semantic generated)
    (second : HasFields line otherDeclaration otherSemantic otherGenerated) :
    declaration = otherDeclaration ∧ semantic = otherSemantic ∧ generated = otherGenerated := by
  obtain ⟨index, used, same⟩ := first
  obtain ⟨otherIndex, otherUsed, otherSame⟩ := second
  rw [same] at otherSame
  cases otherSame
  exact ⟨rfl, rfl, rfl⟩

theorem isVariable_iff {line declaration semantic generated : Text}
    (parts : HasFields line declaration semantic generated) :
    IsVariable line ↔ bareName generated ≠ [] ∧ IsNamed declaration semantic := by
  constructor
  · rintro ⟨otherDeclaration, otherSemantic, otherGenerated, otherParts, named⟩
    obtain ⟨rfl, rfl, rfl⟩ := parts.unique otherParts
    exact named
  · intro named
    exact ⟨declaration, semantic, generated, parts, named⟩

theorem symbolOf_cases (number : Nat) (line declaration semantic : Text) :
    (IsNamed declaration semantic ∧ ∃ symbol, symbolOf number line declaration semantic = .ok symbol) ∨
      (¬IsNamed declaration semantic ∧
        symbolOf number line declaration semantic = .error (.noVariable number line)) := by
  unfold symbolOf IsNamed
  by_cases plain : semantic = []
  · subst plain
    cases third : (words declaration)[2]? with
    | some name =>
      have long := (List.getElem?_eq_some_iff.mp third).1
      exact .inl ⟨.inr long, _, rfl⟩
    | none =>
      have short := List.getElem?_eq_none_iff.mp third
      exact .inr ⟨by simp only [ne_eq, not_true, false_or]; omega, rfl⟩
  · rw [if_neg (by simpa using plain)]
    exact .inl ⟨.inl plain, _, rfl⟩

theorem readVariable_of_fields (number : Nat) {line declaration semantic generated : Text}
    (parts : HasFields line declaration semantic generated) :
    readVariable number line =
      if bareName generated = [] then .error (.emptyName number line)
      else (symbolOf number line declaration semantic).map fun symbol => ⟨bareName generated, symbol⟩ := by
  obtain ⟨index, used, five⟩ := parts
  rw [readVariable, ← fields, five]
  simp only [List.isEmpty_iff]

theorem readVariable_of_count (number : Nat) {line : Text}
    (other : ∀ declaration semantic generated, ¬HasFields line declaration semantic generated) :
    readVariable number line = .error (.fieldCount number (fields line).length line) := by
  rw [readVariable, ← fields]
  split
  · next five => exact absurd ⟨_, _, five⟩ (other _ _ _)
  · rfl

theorem lineFault_of_fields (number : Nat) {line declaration semantic generated : Text}
    (comment : startsWith "//" line = true) (parts : HasFields line declaration semantic generated) :
    lineFault number line =
      if bareName generated = [] then .emptyName number line else .noVariable number line := by
  obtain ⟨index, used, five⟩ := parts
  rw [lineFault, if_pos comment, five]

theorem lineFault_of_count (number : Nat) {line : Text} (comment : startsWith "//" line = true)
    (other : ∀ declaration semantic generated, ¬HasFields line declaration semantic generated) :
    lineFault number line = .fieldCount number (fields line).length line := by
  rw [lineFault, if_pos comment]
  split
  · next five => exact absurd ⟨_, _, five⟩ (other _ _ _)
  · rfl

theorem readVariable_cases (number : Nat) {line : Text} (comment : startsWith "//" line = true) :
    (IsVariable line ∧ ∃ entry, readVariable number line = .ok entry) ∨
      (¬IsVariable line ∧ readVariable number line = .error (lineFault number line)) := by
  by_cases five : ∃ declaration semantic generated, HasFields line declaration semantic generated
  · obtain ⟨declaration, semantic, generated, parts⟩ := five
    rw [isVariable_iff parts, readVariable_of_fields number parts, lineFault_of_fields number comment parts]
    by_cases nameless : bareName generated = []
    · rw [if_pos nameless, if_pos nameless]
      exact .inr ⟨fun named => named.1 nameless, rfl⟩
    · rw [if_neg nameless, if_neg nameless]
      rcases symbolOf_cases number line declaration semantic with ⟨named, symbol, found⟩ | ⟨unnamed, refused⟩
      · exact .inl ⟨⟨nameless, named⟩, ⟨bareName generated, symbol⟩, by rw [found]; rfl⟩
      · exact .inr ⟨fun both => unnamed both.2, by rw [refused]; rfl⟩
  · have other : ∀ declaration semantic generated, ¬HasFields line declaration semantic generated :=
      fun declaration semantic generated parts => five ⟨declaration, semantic, generated, parts⟩
    rw [readVariable_of_count number other, lineFault_of_count number comment other]
    refine .inr ⟨?_, rfl⟩
    rintro ⟨declaration, semantic, generated, parts, _⟩
    exact other declaration semantic generated parts

theorem readLine_cases (line : Text) (index : Nat) :
    (WellFormed line ∧ ∃ result, readLine (line, index) = .ok result) ∨
      (¬WellFormed line ∧ readLine (line, index) = .error (lineFault (index + 1) line)) := by
  unfold WellFormed
  simp only [readLine]
  cases comment : startsWith "//" line with
  | false =>
    refine .inr ⟨by simp, ?_⟩
    rw [lineFault, comment]
    rfl
  | true =>
    cases declares : startsWith "//var" line with
    | false => exact .inl ⟨by simp, none, rfl⟩
    | true =>
      rcases readVariable_cases (index + 1) comment with ⟨whole, entry, found⟩ | ⟨broken, refused⟩
      · refine .inl ⟨⟨rfl, fun _ => whole⟩, some entry, ?_⟩
        rw [found]
        rfl
      · refine .inr ⟨fun formed => broken (formed.2 rfl), ?_⟩
        rw [refused]
        rfl

theorem readLine_fault (line : Text) (index : Nat) (fault : Fault) :
    Progress.fault? (readLine (line, index)) = some fault ↔
      ¬WellFormed line ∧ fault = lineFault (index + 1) line := by
  rw [Progress.fault?_eq_some]
  rcases readLine_cases line index with ⟨formed, result, read⟩ | ⟨broken, refused⟩
  · simp [read, formed]
  · simp [refused, broken, eq_comm]

theorem readLine_faultless (line : Text) (index : Nat) :
    Progress.fault? (readLine (line, index)) = none ↔ WellFormed line := by
  rw [Progress.fault?_eq_none]
  rcases readLine_cases line index with ⟨formed, result, read⟩ | ⟨broken, refused⟩
  · simp [read, formed]
  · simp [refused, broken]

/-! Headers that are accepted. -/

theorem symbols_eq_error {header : Text} {cause : ShaderError} :
    symbols header = .error cause ↔ ∃ fault, (read header).failure = some fault ∧ cause = fault.error := by
  unfold symbols
  cases (read header).failure <;> simp [eq_comm]

theorem faultless_zipIdx (lines : List Text) (start : Nat) :
    (∀ numbered ∈ lines.zipIdx start, Progress.fault? (readLine numbered) = none) ↔
      ∀ line ∈ lines, WellFormed line := by
  induction lines generalizing start with
  | nil => simp
  | cons line rest ih =>
    rw [List.zipIdx_cons, List.forall_mem_cons, List.forall_mem_cons, ih, readLine_faultless]

theorem symbols_eq_error_iff (header : Text) (cause : ShaderError) :
    symbols header = .error cause ↔
      ∃ front line back, lines header = front ++ line :: back ∧ (∀ earlier ∈ front, WellFormed earlier) ∧
        ¬WellFormed line ∧ cause = (lineFault (front.length + 1) line).error := by
  rw [symbols_eq_error, read, Progress.failure_along]
  constructor
  · rintro ⟨fault, failed, rfl⟩
    obtain ⟨earlier, ⟨line, index⟩, later, numbered, here, before⟩ := List.findSome?_eq_some_iff.mp failed
    obtain ⟨front, _, whole, rfl, rest⟩ := List.zipIdx_eq_append_iff.mp numbered
    obtain ⟨_, back, rfl, same, _⟩ := List.zipIdx_eq_cons_iff.mp rest.symm
    cases same
    obtain ⟨broken, rfl⟩ := (readLine_fault line _ fault).mp here
    exact ⟨front, line, back, whole, (faultless_zipIdx front 0).mp before, broken, by rw [Nat.zero_add]⟩
  · rintro ⟨front, line, back, whole, before, broken, rfl⟩
    refine ⟨lineFault (front.length + 1) line, List.findSome?_eq_some_iff.mpr ?_, rfl⟩
    refine ⟨front.zipIdx, (line, front.length), back.zipIdx (front.length + 1), ?_, ?_, ?_⟩
    · rw [whole, List.zipIdx_append, List.zipIdx_cons, Nat.zero_add]
    · exact (readLine_fault line front.length _).mpr ⟨broken, rfl⟩
    · exact (faultless_zipIdx front 0).mpr before

theorem symbols_isOk_iff (header : Text) :
    (∃ table, symbols header = .ok table) ↔ ∀ line ∈ lines header, WellFormed line := by
  have complete : (read header).failure = none ↔ ∀ line ∈ lines header, WellFormed line := by
    rw [read, Progress.failure_along, List.findSome?_eq_none_iff, faultless_zipIdx]
  rw [← complete, symbols]
  cases (read header).failure <;> simp

/-! The symbols of an accepted header. -/

def lineNames (header : Text) : List Text := (lines header).filterMap lineName?

theorem generated_eq_lineNames {lines : List Text} {results : List (Option Entry)} {start : Nat}
    (read : (lines.zipIdx start).map readLine = results.map Except.ok) :
    (results.filterMap id).map Entry.generated = lines.filterMap lineName? := by
  induction lines generalizing results start with
  | nil =>
    cases results with
    | nil => rfl
    | cons result results => cases read
  | cons line lines ih =>
    cases results with
    | nil => cases read
    | cons result results =>
      rw [List.zipIdx_cons, List.map_cons, List.map_cons, List.cons.injEq] at read
      have named := (readLine_eq_ok read.1).1
      have later := ih read.2
      cases result with
      | none => rw [List.filterMap_cons_none rfl, later, List.filterMap_cons_none named]
      | some entry =>
        rw [List.filterMap_cons_some named, ← later]
        rfl

theorem size_symbols {header : Text} {table : SymbolMap} (accepted : symbols header = .ok table) :
    table.size = (lineNames header).toFinset.card := by
  obtain ⟨whole, rfl⟩ := symbols_complete accepted
  rw [symbolsOf, Table.size_ofPairs, List.map_map, lineNames, ← generated_eq_lineNames whole]
  rfl

theorem contains_symbols {header : Text} {table : SymbolMap} (accepted : symbols header = .ok table) (name : Text) :
    table.contains name = true ↔ ∃ line ∈ lines header, lineName? line = some name := by
  obtain ⟨whole, rfl⟩ := symbols_complete accepted
  rw [symbolsOf, Table.contains_ofPairs, List.map_map, ← List.mem_filterMap, ← generated_eq_lineNames whole]
  rfl

theorem mem_of_mem_bareName {field : Text} {c : Char} (inside : c ∈ bareName field) :
    c ∈ field.takeWhile (· != '[') ∧ c ≠ '.' := by
  rw [bareName, List.mem_reverse] at inside
  have dotless : c ≠ '.' := by simpa using List.mem_takeWhile_imp inside
  refine ⟨?_, dotless⟩
  have unqualified := List.mem_reverse.mp (List.takeWhile_subset _ inside)
  unfold Text.after? at unqualified
  split at unqualified
  · exact Text.mem_of_mem_trim (List.mem_of_mem_drop unqualified)
  · exact Text.mem_of_mem_trim unqualified

theorem lineName?_clean {header line name : Text} (among : line ∈ lines header) (named : lineName? line = some name) :
    ∀ mark ∈ "[.:\n".toList, mark ∉ name := by
  unfold lineName? at named
  split at named
  · obtain ⟨field, third, rfl⟩ := Option.map_eq_some_iff.mp named
    obtain ⟨piece, part, rfl⟩ := List.mem_map.mp (List.mem_of_getElem? third)
    intro mark listed inside
    obtain ⟨kept, dotless⟩ := mem_of_mem_bareName inside
    have before : mark ≠ '[' := by simpa using List.mem_takeWhile_imp kept
    have within : mark ∈ piece := Text.mem_of_mem_trim (List.takeWhile_subset _ kept)
    have uncut : mark ≠ ':' := by
      rintro rfl
      exact Text.not_mem_of_mem_split part rfl within
    have unbroken : mark ≠ '\n' := by
      rintro rfl
      exact Text.unbroken_of_mem_lines among (Text.mem_of_mem_split part within)
    simp [before, dotless, uncut, unbroken] at listed
  · cases named

theorem lineName?_ne_nil {line name : Text} (formed : WellFormed line) (named : lineName? line = some name) :
    name ≠ [] := by
  unfold lineName? at named
  split at named
  · next declares =>
    obtain ⟨_, _, generated, ⟨_, _, five⟩, filled, _⟩ := formed.2 declares
    rw [five] at named
    cases named
    exact filled
  · cases named

/-- What the symbols of an accepted header are, said through its lines. -/
structure Describes (header : Text) (table : SymbolMap) : Prop where
  /-- A name is held exactly when a variable line is about it. -/
  held : ∀ name, table.contains name = true ↔ ∃ line ∈ lines header, lineName? line = some name
  /-- The last line about a name gives its symbol. -/
  symbol : ∀ name, table.get? name = (lastLine? header name).bind lineSymbol?
  size : table.size = (lineNames header).toFinset.card
  clean : ∀ name, table.contains name = true → name ≠ [] ∧ ∀ mark ∈ "[.:\n".toList, mark ∉ name

theorem describes_symbols {header : Text} {table : SymbolMap} (accepted : symbols header = .ok table) :
    Describes header table where
  held := contains_symbols accepted
  symbol := get?_symbols accepted
  size := size_symbols accepted
  clean := by
    intro name held
    obtain ⟨line, among, named⟩ := (contains_symbols accepted name).mp held
    have formed := (symbols_isOk_iff header).mp ⟨table, accepted⟩ line among
    exact ⟨lineName?_ne_nil formed named, lineName?_clean among named⟩

/-- A header is accepted exactly when its lines are well formed, its symbols are those of its last lines, and
the error for any other header is that of its first broken line, counted from one. -/
theorem symbols_by_lines (header : Text) :
    ((∃ table, symbols header = .ok table) ↔ ∀ line ∈ lines header, WellFormed line) ∧
      (∀ table, symbols header = .ok table → Describes header table) ∧
      ∀ cause, symbols header = .error cause ↔
        ∃ front line back, lines header = front ++ line :: back ∧ (∀ earlier ∈ front, WellFormed earlier) ∧
          ¬WellFormed line ∧ cause = (lineFault (front.length + 1) line).error :=
  ⟨symbols_isOk_iff header, fun _ => describes_symbols, symbols_eq_error_iff header⟩

def repeatedHeader : Text :=
  "//var float4 a :  : $x.y[0], 4 : 0 : 1\r\n//semantic : a\n//varying : WORLD : y :  :\n" ++
    "//var float3 b : COLOR : $z : 1 : 1"

def repeatedSymbols : SymbolMap := .ofPairs [("y", ⟨"world", .semantic⟩), ("z", ⟨"color", .semantic⟩)]

theorem symbols_by_lines_repeated :
    symbols repeatedHeader = .ok repeatedSymbols ∧ (∀ line ∈ lines repeatedHeader, WellFormed line) ∧
      (lineNames repeatedHeader).toFinset.card = 2 := by
  obtain ⟨formed, described, _⟩ := symbols_by_lines repeatedHeader
  have accepted : symbols repeatedHeader = .ok repeatedSymbols := by decide +kernel
  exact ⟨accepted, formed.mp ⟨_, accepted⟩, (described _ accepted).size.symm⟩

end Header

end ShaderPair
