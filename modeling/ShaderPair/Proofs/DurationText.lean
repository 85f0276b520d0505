import ShaderPair.Duration.Printer
import ShaderPair.Duration.Reader

/-! Durations are read back from their text. The reader follows a row of numbers with units and adds up
what they are worth, one after the other. The printed parts of a duration are such a row, and together
they are worth the duration, so no sum on the way is too long. -/

namespace ShaderPair

namespace TimeUnit

theorem mem_all (unit : TimeUnit) : unit ∈ all := by
  cases unit
  all_goals decide

theorem ofName?_of_mem {unit : TimeUnit} {name : Text} (named : name ∈ unit.names) : ofName? name = some unit := by
  have each : ∀ unit ∈ all, ∀ name ∈ unit.names, ofName? name = some unit := by decide
  exact each unit unit.mem_all name named

theorem ne_nil_of_mem_names {unit : TimeUnit} {name : Text} (named : name ∈ unit.names) : name ≠ [] := by
  have each : ∀ unit ∈ all, ∀ name ∈ unit.names, name ≠ [] := by decide
  exact each unit unit.mem_all name named

def inNanos (unit : TimeUnit) : Nat :=
  if unit.isBelowSecond then unit.scale else unit.scale * nanosPerSecond

end TimeUnit

namespace Duration

/-! ### Reading a row of numbers with units -/

def bytesIn : Text → Nat
  | [] => 0
  | c :: text => c.utf8Size + bytesIn text

theorem readFrom_cons {state next : ReaderState} {offset : Nat} {c : Char}
    (stepped : readChar state offset c = .ok next) (rest : Text) :
    readFrom state offset (c :: rest) = readFrom next (offset + c.utf8Size) rest := by
  rw [readFrom, stepped]

theorem ofDigitChars_digitOf (c : Char) (digits : Text) (value : Nat) :
    Nat.ofDigitChars 10 (c :: digits) value = Nat.ofDigitChars 10 digits (10 * value + digitOf c) :=
  Nat.ofDigitChars_cons

theorem le_ofDigitChars (digits : Text) (value : Nat) : value ≤ Nat.ofDigitChars 10 digits value := by
  induction digits generalizing value with
  | nil => exact Nat.le_refl value
  | cons c digits ih =>
    have grown := ih (10 * value + digitOf c)
    rw [ofDigitChars_digitOf]
    omega

theorem readFrom_digits (total : Option Duration) {digits : Text} {value : Nat} (offset : Nat) (rest : Text)
    (numeral : ∀ c ∈ digits, c.isDigit = true) (fits : Nat.ofDigitChars 10 digits value < Text.wordLimit) :
    readFrom ⟨total, .number value⟩ offset (digits ++ rest) =
      readFrom ⟨total, .number (Nat.ofDigitChars 10 digits value)⟩ (offset + bytesIn digits) rest := by
  induction digits generalizing value offset with
  | nil => rfl
  | cons c digits ih =>
    obtain ⟨digit, numeral⟩ := List.forall_mem_cons.mp numeral
    rw [ofDigitChars_digitOf] at fits ⊢
    have stepped : readChar ⟨total, .number value⟩ offset c = .ok ⟨total, .number (10 * value + digitOf c)⟩ := by
      have grown := le_ofDigitChars digits (10 * value + digitOf c)
      simp only [readChar, digit, if_true, word, if_pos (Nat.lt_of_le_of_lt grown fits)]
      rfl
    rw [List.cons_append, readFrom_cons stepped, ih _ numeral fits, bytesIn, Nat.add_assoc]

theorem readFrom_decimal (total : Option Duration) {count : Nat} (since offset : Nat) (rest : Text)
    (fits : count < Text.wordLimit) :
    readFrom ⟨total, .seeking since⟩ offset (Text.decimal count ++ rest) =
      readFrom ⟨total, .number count⟩ (offset + bytesIn (Text.decimal count)) rest := by
  have numeral : ∀ c ∈ Text.decimal count, c.isDigit = true := fun c =>
    Nat.isDigit_of_mem_toDigits (by decide) (by decide)
  have value : Nat.ofDigitChars 10 (Text.decimal count) 0 = count := Text.numeralValue_decimal count
  have filled : Text.decimal count ≠ [] := Nat.toDigits_ne_nil
  obtain ⟨c, digits, same⟩ := List.exists_cons_of_ne_nil filled
  rw [same] at numeral value ⊢
  obtain ⟨digit, numeral⟩ := List.forall_mem_cons.mp numeral
  rw [ofDigitChars_digitOf, Nat.mul_zero, Nat.zero_add] at value
  have stepped : readChar ⟨total, .seeking since⟩ offset c = .ok ⟨total, .number (digitOf c)⟩ := by
    simp only [readChar, digit, if_true]
  rw [List.cons_append, readFrom_cons stepped, readFrom_digits total _ rest numeral (by omega), value,
    bytesIn, Nat.add_assoc]

def isNameChar (c : Char) : Bool := isUnitChar c && !c.isDigit && !Text.isBlank c

theorem isNameChar_of_mem {unit : TimeUnit} {name : Text} (named : name ∈ unit.names) {c : Char} (member : c ∈ name) :
    isNameChar c = true := by
  have each : ∀ unit ∈ TimeUnit.all, ∀ name ∈ unit.names, name.all isNameChar = true := by decide
  exact List.all_eq_true.mp (each unit unit.mem_all name named) c member

theorem readFrom_name (total : Option Duration) (count : Nat) {name more : Text} (offset : Nat) (rest : Text)
    (inside : ∀ c ∈ more, isNameChar c = true) :
    readFrom ⟨total, .unit count none name⟩ offset (more ++ rest) =
      readFrom ⟨total, .unit count none (name ++ more)⟩ (offset + bytesIn more) rest := by
  induction more generalizing name offset with
  | nil => rw [List.append_nil]; rfl
  | cons c more ih =>
    obtain ⟨lengthens, inside⟩ := List.forall_mem_cons.mp inside
    simp only [isNameChar, Bool.and_eq_true, Bool.not_eq_true'] at lengthens
    have stepped : readChar ⟨total, .unit count none name⟩ offset c = .ok ⟨total, .unit count none (name ++ [c])⟩ := by
      simp [readChar, lengthens]
    rw [List.cons_append, readFrom_cons stepped, ih _ inside, bytesIn, Nat.add_assoc, List.append_assoc]
    rfl

theorem readFrom_unit (total : Option Duration) (count : Nat) {unit : TimeUnit} {name : Text} (offset : Nat)
    (rest : Text) (named : name ∈ unit.names) :
    readFrom ⟨total, .number count⟩ offset (name ++ rest) =
      readFrom ⟨total, .unit count none name⟩ (offset + bytesIn name) rest := by
  have inside : ∀ c ∈ name, isNameChar c = true := fun c => isNameChar_of_mem named
  obtain ⟨c, more, rfl⟩ := List.exists_cons_of_ne_nil (TimeUnit.ne_nil_of_mem_names named)
  obtain ⟨begins, inside⟩ := List.forall_mem_cons.mp inside
  simp only [isNameChar, Bool.and_eq_true, Bool.not_eq_true'] at begins
  have stepped : readChar ⟨total, .number count⟩ offset c = .ok ⟨total, .unit count none [c]⟩ := by
    simp [readChar, begins]
  rw [List.cons_append, readFrom_cons stepped, readFrom_name total count _ rest inside, bytesIn, Nat.add_assoc]
  rfl

theorem addTerm_of_mem {unit : TimeUnit} {name : Text} (named : name ∈ unit.names) (total : Duration) (count : Nat) :
    addTerm total count none name = addWhole total unit count := by
  obtain ⟨c, more, same⟩ := List.exists_cons_of_ne_nil (TimeUnit.ne_nil_of_mem_names named)
  have filled : name.isEmpty = false := by rw [same]; rfl
  rw [addTerm, filled, TimeUnit.ofName?_of_mem named]
  change addWhole total unit count >>= Except.ok = _
  cases addWhole total unit count <;> rfl

structure Measure where
  count : Nat
  unit : TimeUnit

def addMeasures (total : Duration) (measures : List Measure) : Except ReadError Duration :=
  measures.foldlM (fun sum measure => addWhole sum measure.unit measure.count) total

theorem readFrom_blank (total : Option Duration) (count : Nat) {unit : TimeUnit} {name : Text} (offset : Nat)
    (rest : Text) (named : name ∈ unit.names) :
    readFrom ⟨total, .unit count none name⟩ offset (' ' :: rest) =
      (addWhole (total.getD zero) unit count >>= fun sum =>
        readFrom ⟨some sum, .seeking (offset + ' '.utf8Size)⟩ (offset + ' '.utf8Size) rest) := by
  have stepped : readChar ⟨total, .unit count none name⟩ offset ' ' =
      (addWhole (total.getD zero) unit count).map fun sum => ⟨some sum, .seeking (offset + ' '.utf8Size)⟩ := by
    rw [← addTerm_of_mem named]
    change ((addTerm (total.getD zero) count none name).map some).map _ = _
    cases addTerm (total.getD zero) count none name <;> rfl
  rw [readFrom, stepped]
  cases addWhole (total.getD zero) unit count <;> rfl

/-- Measures in a row, under whatever names their units go by, are added up. -/
theorem readFrom_measures {name : Measure → Text} (named : ∀ measure, name measure ∈ measure.unit.names)
    {measures : List Measure} (filled : measures ≠ []) (words : ∀ measure ∈ measures, measure.count < Text.wordLimit)
    (total : Option Duration) (since offset : Nat) :
    readFrom ⟨total, .seeking since⟩ offset
        (Text.join " " (measures.map fun measure => Text.decimal measure.count ++ name measure)) =
      addMeasures (total.getD zero) measures := by
  induction measures generalizing total since offset with
  | nil => exact absurd rfl filled
  | cons first measures ih =>
    obtain ⟨fits, words⟩ := List.forall_mem_cons.mp words
    have begins (rest : Text) := (readFrom_decimal total since offset (name first ++ rest) fits).trans
      (readFrom_unit total first.count _ rest (named first))
    rw [addMeasures, List.foldlM_cons]
    cases measures with
    | nil =>
      have read := begins []
      rw [List.append_nil] at read
      rw [List.map_singleton, Text.join, read]
      exact (addTerm_of_mem (named first) _ _).trans (bind_pure _).symm
    | cons second measures =>
      rw [List.map_cons, List.map_cons, Text.join, List.append_assoc, List.append_assoc, begins]
      refine (readFrom_blank total first.count _ _ (named first)).trans (congrArg _ (funext fun sum => ?_))
      exact ih (List.cons_ne_nil _ _) words (some sum) _ _

/-! ### What durations and units are worth -/

def inNanos (duration : Duration) : Nat := duration.seconds.toNat * nanosPerSecond + duration.nanos.val

theorem inNanos_lt (duration : Duration) : duration.inNanos < Text.wordLimit * nanosPerSecond := by
  have seconds := duration.seconds.toNat_lt
  have nanos := duration.nanos.isLt
  simp only [inNanos, nanosPerSecond, Text.wordLimit] at nanos ⊢
  omega

theorem inNanos_injective {first second : Duration} (same : first.inNanos = second.inNanos) : first = second := by
  obtain ⟨seconds, nanos⟩ := first
  obtain ⟨otherSeconds, otherNanos⟩ := second
  have small := nanos.isLt
  have otherSmall := otherNanos.isLt
  rw [Duration.mk.injEq, ← UInt64.toNat_inj, Fin.ext_iff]
  simp only [inNanos, nanosPerSecond] at same small otherSmall ⊢
  omega

theorem ofParts?_eq_some_iff {seconds nanos : Nat} {duration : Duration} :
    ofParts? seconds nanos = some duration ↔ duration.inNanos = seconds * nanosPerSecond + nanos := by
  rw [ofParts?]
  split
  · next fits =>
    have length : (⟨UInt64.ofNat (seconds + nanos / nanosPerSecond), ⟨nanos % nanosPerSecond,
        Nat.mod_lt _ (by decide)⟩⟩ : Duration).inNanos = seconds * nanosPerSecond + nanos := by
      simp only [inNanos, nanosPerSecond] at fits ⊢
      rw [UInt64.toNat_ofNat_of_lt' fits]
      omega
    rw [Option.some_inj, ← length]
    exact ⟨fun same => same ▸ rfl, fun same => (inNanos_injective same).symm⟩
  · next large =>
    refine iff_of_false (by simp) fun same => ?_
    have bound := duration.inNanos_lt
    simp only [nanosPerSecond, Text.wordLimit] at large same bound
    omega

theorem exists_inNanos {length : Nat} (fits : length < Text.wordLimit * nanosPerSecond) :
    ∃ duration : Duration, duration.inNanos = length := by
  cases made : ofParts? 0 length with
  | some duration => exact ⟨duration, by have := ofParts?_eq_some_iff.mp made; omega⟩
  | none =>
    simp [ofParts?] at made
    simp only [nanosPerSecond, Text.wordLimit] at fits made
    omega

theorem add?_eq_some_iff {total sum : Duration} {seconds nanos : Nat} :
    total.add? seconds nanos = some sum ↔
      total.nanos.val + nanos < Text.wordLimit ∧ sum.inNanos = total.inNanos + (seconds * nanosPerSecond + nanos) := by
  rw [add?]
  split
  · next fits =>
    rw [ofParts?_eq_some_iff, inNanos, inNanos, Nat.add_mul]
    omega
  · next large => exact iff_of_false (by simp) fun result => large result.1

/-- Adding so many of a unit gives a sum exactly when the amount and the nanoseconds are machine words and
the sum is a duration. -/
theorem addWhole_eq_ok_iff {total sum : Duration} {unit : TimeUnit} {count : Nat} :
    addWhole total unit count = .ok sum ↔
      count * unit.scale < Text.wordLimit ∧
        (unit.isBelowSecond = true → total.nanos.val + count * unit.scale < Text.wordLimit) ∧
        sum.inNanos = total.inNanos + count * unit.inNanos := by
  have some_iff (found : Option Duration) : orOverflow found = .ok sum ↔ found = some sum := by
    cases found <;> simp [orOverflow]
  rw [addWhole, word]
  split
  · next fits =>
    change (if unit.isBelowSecond = true then _ else _) = _ ↔ _
    rw [TimeUnit.inNanos]
    split
    · next below =>
      rw [some_iff, add?_eq_some_iff, Nat.zero_mul, Nat.zero_add]
      simp [fits, below]
    · next above =>
      have small : total.nanos.val < Text.wordLimit := Nat.lt_trans total.nanos.isLt (by decide)
      rw [some_iff, add?_eq_some_iff, Nat.add_zero, Nat.add_zero, Nat.mul_assoc]
      simp [fits, above, small]
  · next large => exact iff_of_false (fun failed => by cases failed) fun result => large result.1

/-- A measure that is a machine word, and below a second if its unit is. -/
def Measure.Moderate (measure : Measure) : Prop :=
  measure.count * measure.unit.scale < if measure.unit.isBelowSecond then nanosPerSecond else Text.wordLimit

theorem Measure.Moderate.count_lt {measure : Measure} (moderate : measure.Moderate) :
    measure.count < Text.wordLimit := by
  have positive : 0 < measure.unit.scale := by
    cases measure.unit
    all_goals decide
  have bounded := Nat.le_mul_of_pos_right measure.count positive
  unfold Moderate at moderate
  split at moderate
  · simp only [nanosPerSecond, Text.wordLimit] at moderate ⊢
    omega
  · omega

def worth : List Measure → Nat
  | [] => 0
  | first :: measures => first.count * first.unit.inNanos + worth measures

theorem worth_append (front back : List Measure) : worth (front ++ back) = worth front + worth back := by
  induction front with
  | nil => exact (Nat.zero_add _).symm
  | cons first front ih => rw [List.cons_append, worth, worth, ih, Nat.add_assoc]

theorem addWhole_eq_ok {total sum : Duration} {measure : Measure} (moderate : measure.Moderate)
    (length : sum.inNanos = total.inNanos + measure.count * measure.unit.inNanos) :
    addWhole total measure.unit measure.count = .ok sum := by
  have small := total.nanos.isLt
  rw [addWhole_eq_ok_iff]
  unfold Measure.Moderate at moderate
  split at moderate
  · simp only [nanosPerSecond, Text.wordLimit] at moderate small ⊢
    omega
  · next above => exact ⟨moderate, fun below => absurd below above, length⟩

theorem addMeasures_eq_ok {measures : List Measure} {total sum : Duration}
    (moderate : ∀ measure ∈ measures, measure.Moderate) (length : sum.inNanos = total.inNanos + worth measures) :
    addMeasures total measures = .ok sum := by
  induction measures generalizing total with
  | nil =>
    rw [worth, Nat.add_zero] at length
    exact congrArg Except.ok (inNanos_injective length).symm
  | cons first measures ih =>
    obtain ⟨here, moderate⟩ := List.forall_mem_cons.mp moderate
    rw [worth, ← Nat.add_assoc] at length
    have bound := sum.inNanos_lt
    obtain ⟨next, reached⟩ : ∃ next : Duration, next.inNanos = total.inNanos + first.count * first.unit.inNanos :=
      exists_inNanos (by omega)
    rw [addMeasures, List.foldlM_cons, addWhole_eq_ok here reached]
    exact ih moderate (length.trans (by rw [reached]))

/-! ### The printed parts -/

/-- As many of each unit as there are, the larger units first. -/
def splitBy (amount : Nat) : List TimeUnit → List Measure
  | [] => []
  | unit :: units => ⟨amount / unit.scale, unit⟩ :: splitBy (amount % unit.scale) units

theorem splitBy_bounded {amount : Nat} {units : List TimeUnit} {measure : Measure}
    (member : measure ∈ splitBy amount units) : measure.unit ∈ units ∧ measure.count * measure.unit.scale ≤ amount := by
  induction units generalizing amount with
  | nil => cases member
  | cons unit units ih =>
    cases member with
    | head => exact ⟨List.mem_cons_self, Nat.div_mul_le_self amount unit.scale⟩
    | tail _ later =>
      obtain ⟨among, bounded⟩ := ih later
      exact ⟨List.mem_cons_of_mem _ among, Nat.le_trans bounded (Nat.mod_le amount unit.scale)⟩

/-- Nothing is left of an amount that is split by units down to the one that counts it. -/
theorem worth_splitBy (amount : Nat) {units : List TimeUnit} {last : TimeUnit} {rate : Nat} (single : last.scale = 1)
    (rated : ∀ unit ∈ units ++ [last], unit.inNanos = unit.scale * rate) :
    worth (splitBy amount (units ++ [last])) = amount * rate := by
  induction units generalizing amount with
  | nil =>
    rw [List.nil_append, splitBy, worth, splitBy, worth, rated last List.mem_cons_self, single, Nat.div_one,
      Nat.one_mul, Nat.add_zero]
  | cons unit units ih =>
    obtain ⟨here, rated⟩ := List.forall_mem_cons.mp rated
    rw [List.cons_append, splitBy, worth, ih _ rated, here]
    calc amount / unit.scale * (unit.scale * rate) + amount % unit.scale * rate
        = (amount / unit.scale * unit.scale + amount % unit.scale) * rate := by rw [Nat.add_mul, Nat.mul_assoc]
      _ = amount * rate := by rw [Nat.div_add_mod']

def measures (duration : Duration) : List Measure :=
  splitBy duration.seconds.toNat [.year, .month, .day, .hour, .minute, .second] ++
    splitBy duration.nanos.val [.millisecond, .microsecond, .nanosecond]

theorem worth_measures (duration : Duration) : worth duration.measures = duration.inNanos := by
  have seconds : worth (splitBy duration.seconds.toNat ([.year, .month, .day, .hour, .minute] ++ [.second])) =
    duration.seconds.toNat * nanosPerSecond := worth_splitBy _ rfl (by decide)
  have nanos : worth (splitBy duration.nanos.val ([.millisecond, .microsecond] ++ [.nanosecond])) =
    duration.nanos.val * 1 := worth_splitBy _ rfl (by decide)
  rw [Nat.mul_one] at nanos
  rw [inNanos, ← seconds, ← nanos]
  exact worth_append _ _

theorem moderate_measures (duration : Duration) : ∀ measure ∈ duration.measures, measure.Moderate := by
  have whole : ∀ unit ∈ [TimeUnit.year, .month, .day, .hour, .minute, .second], unit.isBelowSecond = false := by decide
  have below : ∀ unit ∈ [TimeUnit.millisecond, .microsecond, .nanosecond], unit.isBelowSecond = true := by decide
  intro measure member
  rw [Measure.Moderate]
  obtain member | member := List.mem_append.mp member
  · obtain ⟨among, bounded⟩ := splitBy_bounded member
    rw [whole _ among]
    exact Nat.lt_of_le_of_lt bounded duration.seconds.toNat_lt
  · obtain ⟨among, bounded⟩ := splitBy_bounded member
    rw [below _ among]
    exact Nat.lt_of_le_of_lt bounded duration.nanos.isLt

def unitWord : Measure → Text
  | ⟨count, .year⟩ => if count > 1 then "year" ++ ['s'] else "year"
  | ⟨count, .month⟩ => if count > 1 then "month" ++ ['s'] else "month"
  | ⟨_, .week⟩ => "week"
  | ⟨count, .day⟩ => if count > 1 then "day" ++ ['s'] else "day"
  | ⟨_, .hour⟩ => "h"
  | ⟨_, .minute⟩ => "m"
  | ⟨_, .second⟩ => "s"
  | ⟨_, .millisecond⟩ => "ms"
  | ⟨_, .microsecond⟩ => "us"
  | ⟨_, .nanosecond⟩ => "ns"

theorem unitWord_mem (measure : Measure) : unitWord measure ∈ measure.unit.names := by
  obtain ⟨count, unit⟩ := measure
  cases unit
  all_goals simp only [unitWord]
  all_goals first | decide | (split <;> decide)

theorem parts_eq (duration : Duration) :
    duration.parts =
      (duration.measures.filter (·.count != 0)).map fun measure => (measure.count, unitWord measure) := by
  -- The last parts are not taken from what the parts before them leave, and have the same values.
  have micros (nanos : Nat) : nanos / 1000 % 1000 = nanos % 1000000 / 1000 := by omega
  have nanos (nanos : Nat) : nanos % 1000 = nanos % 1000000 % 1000 / 1 := by omega
  have listed : duration.parts =
      (duration.measures.map fun measure => (measure.count, unitWord measure)).filter (·.1 != 0) := by
    simp only [parts]
    rw [micros, nanos duration.nanos.val, ← Nat.div_one (_ % TimeUnit.minute.scale)]
    rfl
  rw [listed, List.filter_map]
  rfl

theorem worth_filter (measures : List Measure) : worth (measures.filter (·.count != 0)) = worth measures := by
  induction measures with
  | nil => rfl
  | cons first measures ih =>
    rw [List.filter_cons, worth]
    split
    · rw [worth, ih]
    · next none =>
      have absent : first.count = 0 := by simpa using none
      rw [ih, absent, Nat.zero_mul, Nat.zero_add]

/-- A duration is read back from its text. -/
theorem read_text (duration : Duration) : read duration.text = .ok duration := by
  by_cases absent : duration = zero
  · rw [absent]
    rfl
  · have length : duration.inNanos = zero.inNanos + worth (duration.measures.filter (·.count != 0)) := by
      rw [worth_filter, worth_measures]
      exact (Nat.zero_add _).symm
    have filled : duration.measures.filter (·.count != 0) ≠ [] := by
      intro none
      rw [none] at length
      exact absent (inNanos_injective length)
    have moderate : ∀ measure ∈ duration.measures.filter (·.count != 0), measure.Moderate := fun measure member =>
      duration.moderate_measures measure (List.mem_filter.mp member).1
    have words : ∀ measure ∈ duration.measures.filter (·.count != 0), measure.count < Text.wordLimit :=
      fun measure member => (moderate measure member).count_lt
    have reading : readFrom ⟨none, .seeking 0⟩ 0 duration.text = .ok duration := by
      rw [text, if_neg absent, parts_eq, List.map_map]
      exact (readFrom_measures unitWord_mem filled words none 0 0).trans (addMeasures_eq_ok moderate length)
    rw [read]
    split
    · next lone =>
      -- Read as a row, a lone zero lacks its unit.
      rw [eq_of_beq lone] at reading
      cases reading
    · exact reading

end Duration

end ShaderPair
