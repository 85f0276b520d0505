import ShaderPair.Header
import ShaderPair.Proofs.Tables

/-! What a header says of a name. Each variable line is looked at on its own, and the last line for a name
gives its symbol. -/

namespace ShaderPair.Header

def fields (line : Text) : List Text := (Text.split (· == ':') line).map Text.trim

/-- The generated name that a variable line is about. -/
def lineName? (line : Text) : Option Text :=
  if Text.startsWith "//var" line then (fields line)[2]?.map bareName else none

def lineSymbol? (line : Text) : Option Symbol :=
  match fields line with
  | declaration :: semantic :: _ =>
    if semantic.isEmpty then (Text.words declaration)[2]?.map fun name => ⟨name, .plain⟩
    else some ⟨Semantic.canonical semantic, .semantic⟩
  | _ => none

/-- The last line of a header that is about a name. -/
def lastLine? (header name : Text) : Option Text :=
  ((Text.lines header).filter fun line => lineName? line == some name).getLast?

theorem symbolOf_eq_ok {number : Nat} {line declaration semantic : Text} {symbol : Symbol} {others : List Text}
    (split : fields line = declaration :: semantic :: others)
    (found : symbolOf number line declaration semantic = .ok symbol) : lineSymbol? line = some symbol := by
  unfold lineSymbol?
  rw [split]
  unfold symbolOf at found
  by_cases plain : semantic.isEmpty = true
  · rw [if_pos plain] at found
    simp only [if_pos plain]
    cases declared : (Text.words declaration)[2]? with
    | none =>
      rw [declared] at found
      cases found
    | some name =>
      rw [declared] at found
      cases found
      rfl
  · rw [if_neg plain] at found
    cases found
    simp only [if_neg plain]

theorem readVariable_eq_ok {number : Nat} {line : Text} {entry : Entry} (read : readVariable number line = .ok entry) :
    (fields line)[2]?.map bareName = some entry.generated ∧ lineSymbol? line = some entry.symbol := by
  unfold readVariable at read
  split at read
  · next declaration semantic generated index used split =>
    by_cases nameless : (bareName generated).isEmpty = true
    · rw [if_pos nameless] at read
      cases read
    · rw [if_neg nameless] at read
      cases found : symbolOf number line declaration semantic with
      | error fault =>
        rw [found] at read
        cases read
      | ok symbol =>
        rw [found] at read
        cases read
        refine ⟨?_, symbolOf_eq_ok split found⟩
        rw [fields, split]
        rfl
  · cases read

theorem readLine_eq_ok {line : Text} {index : Nat} {result : Option Entry}
    (read : readLine (line, index) = .ok result) :
    lineName? line = result.map Entry.generated ∧ ∀ entry ∈ result, lineSymbol? line = some entry.symbol := by
  simp only [readLine] at read
  split at read
  · cases read
  · split at read
    · next other =>
      cases read
      rw [lineName?, if_neg (by simpa using other)]
      exact ⟨rfl, nofun⟩
    · next declares =>
      rw [lineName?, if_pos (by simpa using declares)]
      cases outcome : readVariable (index + 1) line with
      | error fault =>
        rw [outcome] at read
        cases read
      | ok entry =>
        rw [outcome] at read
        cases read
        obtain ⟨named, symbol⟩ := readVariable_eq_ok outcome
        refine ⟨named, ?_⟩
        rintro _ ⟨⟩
        exact symbol

theorem isSome_lineSymbol {lines : List Text} {results : List (Option Entry)} {start : Nat}
    (read : (lines.zipIdx start).map readLine = results.map Except.ok) {line name : Text} (among : line ∈ lines)
    (named : lineName? line = some name) : (lineSymbol? line).isSome = true := by
  rw [← List.zipIdx_map_fst start lines] at among
  obtain ⟨⟨line, index⟩, numbered, rfl⟩ := List.mem_map.mp among
  have outcome : readLine (line, index) ∈ (lines.zipIdx start).map readLine := List.mem_map_of_mem numbered
  rw [read] at outcome
  obtain ⟨result, _, same⟩ := List.mem_map.mp outcome
  obtain ⟨given, symbol⟩ := readLine_eq_ok same.symm
  rw [named] at given
  cases result with
  | none => cases given
  | some entry => rw [symbol entry rfl, Option.isSome_some]

theorem get?_symbolsOf {lines : List Text} {results : List (Option Entry)} {start : Nat}
    (read : (lines.zipIdx start).map readLine = results.map Except.ok) (name : Text) :
    (symbolsOf (results.filterMap id)).get? name =
      ((lines.filter fun line => lineName? line == some name).getLast?).bind lineSymbol? := by
  induction lines generalizing results start with
  | nil =>
    cases results with
    | nil => rfl
    | cons result results => cases read
  | cons line lines ih =>
    cases results with
    | nil => cases read
    | cons result results =>
      rw [List.zipIdx_cons, List.map_cons, List.map_cons, List.cons.injEq] at read
      obtain ⟨named, symbol⟩ := readLine_eq_ok read.1
      have later := ih read.2
      cases result with
      | none =>
        rw [List.filterMap_cons_none rfl, later, List.filter_cons_of_neg (by simp [named])]
      | some entry =>
        have first : (symbolsOf ((some entry :: results).filterMap id)).get? name =
            ((symbolsOf (results.filterMap id)).get? name).or
              (if name = entry.generated then some entry.symbol else none) := by
          show (symbolsOf (entry :: results.filterMap id)).get? name = _
          exact Table.get?_ofPairs_cons (entry.generated, entry.symbol) _ name
        rw [first, later]
        -- The entry of this line counts when no later line is about the name.
        by_cases same : name = entry.generated
        · rw [if_pos same, List.filter_cons_of_pos (by simp [named, same]), List.getLast?_cons]
          cases found : (lines.filter fun line => lineName? line == some name).getLast? with
          | none => exact (symbol entry rfl).symm
          | some last =>
            obtain ⟨among, about⟩ := List.mem_filter.mp (List.mem_of_getLast? found)
            obtain ⟨held, given⟩ := Option.isSome_iff_exists.mp (isSome_lineSymbol read.2 among (beq_iff_eq.mp about))
            simp [given]
        · rw [if_neg same, Option.or_none, List.filter_cons_of_neg (by simpa [named] using Ne.symm same)]

theorem symbols_complete {header : Text} {table : SymbolMap} (accepted : symbols header = .ok table) :
    (Text.lines header).zipIdx.map readLine = (read header).done.map Except.ok ∧
      table = symbolsOf (entries header) := by
  unfold symbols at accepted
  split at accepted
  · next complete =>
    cases accepted
    have whole : (read header).toExcept = .ok (read header).done := by rw [Progress.toExcept, complete]
    exact ⟨(Progress.toExcept_along_eq_ok _ _ _).mp whole, rfl⟩
  · cases accepted

theorem get?_symbols {header : Text} {table : SymbolMap} (accepted : symbols header = .ok table) (name : Text) :
    table.get? name = (lastLine? header name).bind lineSymbol? := by
  obtain ⟨whole, rfl⟩ := symbols_complete accepted
  exact get?_symbolsOf whole name

end ShaderPair.Header
