import ShaderPair.Duration.Basic

/-! Durations read from text such as `1h 30m` or `2.5s`: numbers with a unit each, added up. The
reader goes through the text once; offsets in its complaints count bytes. -/

namespace ShaderPair.Duration

inductive ReadError where
  | empty
  | numberExpected (offset : Nat)
  | invalidCharacter (offset : Nat)
  | overflow
  | unitNeeded (value : Nat)
  | unknownUnit (unit : Text)
  deriving DecidableEq, Repr

def ReadError.message : ReadError → Text
  | empty => "value was empty"
  | numberExpected offset => "expected number at " ++ Text.decimal offset
  | invalidCharacter offset => "invalid character at " ++ Text.decimal offset
  | overflow => "number is too large or cannot be represented without a lack of precision " ++
      "(values below 1ns are not supported)"
  | unitNeeded value => "time unit needed, for example " ++ Text.decimal value ++ "sec or " ++
      Text.decimal value ++ "ms"
  | unknownUnit unit => "unknown time unit \"" ++ unit ++ "\", supported units: " ++
      "ns, us/µs, ms, sec, min, hours, days, weeks, months, years (and few variations)"

structure Fraction where
  numerator : Nat
  denominator : Nat
  deriving DecidableEq, Repr

def word (number : Nat) : Except ReadError Nat :=
  if number < Text.wordLimit then .ok number else .error .overflow

def orOverflow : Option α → Except ReadError α
  | some value => .ok value
  | none => .error .overflow

def addWhole (total : Duration) (unit : TimeUnit) (value : Nat) : Except ReadError Duration := do
  let amount ← word (value * unit.scale)
  if unit.isBelowSecond then orOverflow (total.add? 0 amount) else orOverflow (total.add? amount 0)

/-- The scale of a unit's fractions: nanoseconds up to the minute, seconds above. -/
def fractionScale (unit : TimeUnit) : Nat :=
  match unit with
  | .second => nanosPerSecond
  | .minute => 60 * nanosPerSecond
  | other => other.scale

/-- A fraction must come out even; nanoseconds have none. -/
def addFraction (total : Duration) (unit : TimeUnit) (fraction : Fraction) :
    Except ReadError Duration := do
  if unit = .nanosecond then .error .overflow
  let amount ← word (fraction.numerator * fractionScale unit)
  if amount % fraction.denominator != 0 then .error .overflow
  let share := amount / fraction.denominator
  if unit.isBelowSecond || unit = .second || unit = .minute then orOverflow (total.add? 0 share)
  else orOverflow (total.add? share 0)

def addTerm (total : Duration) (value : Nat) (fraction : Option Fraction) (name : Text) :
    Except ReadError Duration := do
  if name.isEmpty then .error (.unitNeeded value)
  match TimeUnit.ofName? name with
  | none => .error (.unknownUnit name)
  | some unit =>
    let total ← addWhole total unit value
    match fraction with
    | none => .ok total
    | some fraction => addFraction total unit fraction

inductive Reading where
  /-- Looking for a number since the given offset. -/
  | seeking (since : Nat)
  | number (value : Nat)
  /-- `blame` is the offset a complaint about the fraction gives. -/
  | fraction (value : Nat) (digits : Fraction) (blame : Nat)
  | unit (value : Nat) (digits : Option Fraction) (name : Text)
  deriving DecidableEq, Repr

/-- The sum of the terms read so far, if any, and what is being read. -/
structure ReaderState where
  total : Option Duration
  reading : Reading
  deriving DecidableEq, Repr

def isUnitChar (c : Char) : Bool := c.isAlpha || c == 'µ'

def digitOf (c : Char) : Nat := c.toNat - '0'.toNat

def ReaderState.close (state : ReaderState) (value : Nat) (digits : Option Fraction) (name : Text) :
    Except ReadError (Option Duration) :=
  (addTerm (state.total.getD zero) value digits name).map some

def readChar (state : ReaderState) (offset : Nat) (c : Char) : Except ReadError ReaderState :=
  match state.reading with
  | .seeking since =>
    if c.isDigit then .ok ⟨state.total, .number (digitOf c)⟩
    else if Text.isBlank c then .ok state
    else .error (.numberExpected since)
  | .number value =>
    if c.isDigit then
      (word (10 * value + digitOf c)).map fun next => ⟨state.total, .number next⟩
    else if Text.isBlank c then .ok state
    else if isUnitChar c then .ok ⟨state.total, .unit value none [c]⟩
    else if c == '.' then .ok ⟨state.total, .fraction value ⟨0, 1⟩ offset⟩
    else .error (.invalidCharacter offset)
  | .fraction value digits blame =>
    if c.isDigit then do
      let denominator ← word (10 * digits.denominator)
      let numerator ← word (10 * digits.numerator + digitOf c)
      .ok ⟨state.total, .fraction value ⟨numerator, denominator⟩ (offset + c.utf8Size)⟩
    else if Text.isBlank c then .ok ⟨state.total, .fraction value digits (offset + c.utf8Size)⟩
    else if isUnitChar c && digits.denominator != 1 then
      .ok ⟨state.total, .unit value (some digits) [c]⟩
    else .error (.invalidCharacter blame)
  | .unit value digits name =>
    if c.isDigit then
      (state.close value digits name).map fun total => ⟨total, .number (digitOf c)⟩
    else if Text.isBlank c then
      (state.close value digits name).map fun total => ⟨total, .seeking (offset + c.utf8Size)⟩
    else if isUnitChar c then .ok ⟨state.total, .unit value digits (name ++ [c])⟩
    else .error (.invalidCharacter offset)

def readEnd (state : ReaderState) : Except ReadError Duration :=
  match state.reading with
  | .seeking _ =>
    match state.total with
    | some total => .ok total
    | none => .error .empty
  | .number value => .error (.unitNeeded value)
  | .fraction value digits blame =>
    if digits.denominator == 1 then .error (.invalidCharacter blame) else .error (.unitNeeded value)
  | .unit value digits name => addTerm (state.total.getD zero) value digits name

def readFrom (state : ReaderState) (offset : Nat) : Text → Except ReadError Duration
  | [] => readEnd state
  | c :: rest =>
    match readChar state offset c with
    | .error cause => .error cause
    | .ok next => readFrom next (offset + c.utf8Size) rest

/-- Read a duration. A lone zero needs no unit. -/
def read (text : Text) : Except ReadError Duration :=
  if text == ['0'] then .ok zero else readFrom ⟨none, .seeking 0⟩ 0 text

end ShaderPair.Duration
