import ShaderPair.Pattern.Meaning
import ShaderPair.Pattern.Reader
import ShaderPair.Text.Utf8

/-! How much room a pattern takes when it is laid out for matching byte by byte. There are two such
layouts, one that reads forwards and one that reads backwards, and both are limited. A text describes a
pattern unless it is faulty or its pattern is too large. -/

namespace ShaderPair

namespace CharSet

/-- Runs of code points whose characters are encoded alike: in the same number of bytes. -/
def encodingZones : List (Nat × Nat) :=
  [(0, 0x7F), (0x80, 0x7FF), (0x800, 0xD7FF), (0xE000, 0xFFFF), (0x10000, lastCode)]

/-- A run cut so that each of its last bytes takes either one value or all of them. Cutting ends long
before the limit. -/
def aligned : Nat → Nat × Nat → List (Nat × Nat)
  | 0, run => [run]
  | limit + 1, (first, last) =>
    let uneven := fun block =>
      first / block != last / block && (first % block != 0 || last % block != block - 1)
    match [64, 4096, 262144].find? uneven with
    | none => [(first, last)]
    | some block =>
      let middle := if first % block != 0 then (first / block + 1) * block else last / block * block
      aligned limit (first, middle - 1) ++ aligned limit (middle, last)

def encodedAt (code : Nat) : Bytes := Text.toUtf8 [Char.ofNat code]

def byteRuns (run : Nat × Nat) : List (UInt8 × UInt8) := (encodedAt run.1).zip (encodedAt run.2)

def byteSequences (set : CharSet) : List (List (UInt8 × UInt8)) :=
  (set.runs.flatMap fun run => encodingZones.flatMap fun zone =>
    let first := max run.1 zone.1
    let last := min run.2 zone.2
    if first ≤ last then aligned 16 (first, last) else []).map byteRuns

def sharedLength : List (UInt8 × UInt8) → List (UInt8 × UInt8) → Nat
  | one :: ones, other :: others => if one == other then sharedLength ones others + 1 else 0
  | _, _ => 0

/-- The steps to read any of the sequences, where equal beginnings of neighbours are read once. -/
def stepCount : List (List (UInt8 × UInt8)) → Nat
  | one :: other :: rest => one.length - sharedLength one other + stepCount (other :: rest)
  | [one] => one.length
  | [] => 0

end CharSet

namespace Pattern

def stepRoom : Nat := 32

/-- The room for a set beyond ASCII, in the backward layout. The forward one shares more and is never
the larger. -/
def encodedRoom (set : CharSet) : Nat :=
  let sequences := set.byteSequences
  stepRoom * (2 + CharSet.stepCount sequences) + 4 * sequences.length

def setRoom (backward : Bool) (set : CharSet) : Nat :=
  if set.runs.isEmpty then stepRoom
  else match set.only? with
    | some c => stepRoom * (Text.toUtf8 [c]).length
    | none =>
      if set.isAscii then 2 * stepRoom + 8 * set.runs.length
      else if backward then encodedRoom set else 0

def isEmptyOnly : Pattern → Bool
  | nothing | look _ => true
  | one _ => false
  | sequence first second | choice first second => first.isEmptyOnly && second.isEmptyOnly
  | repeated inner _ most => inner.isEmptyOnly || most == some 0
  | group inner => inner.isEmptyOnly

def canBeEmpty : Pattern → Bool
  | nothing | look _ => true
  | one _ => false
  | sequence first second => first.canBeEmpty && second.canBeEmpty
  | choice first second => first.canBeEmpty || second.canBeEmpty
  | repeated inner least _ => least == 0 || inner.canBeEmpty
  | group inner => inner.canBeEmpty

def isChoice : Pattern → Bool
  | choice _ _ => true
  | _ => false

/-- A part is laid out once for each time it has to or may be repeated. -/
def repeatedRoom (room least : Nat) (canBeEmpty : Bool) : Option Nat → Nat
  | none =>
    if least == 0 && canBeEmpty then room + 3 * stepRoom + 16
    else max least 1 * room + stepRoom + 8
  | some most =>
    if most == 0 then stepRoom
    else if least == most then least * room
    else if most == 1 then room + 2 * stepRoom + 8
    else max (least * room) (if least == 0 then stepRoom else 0) + stepRoom +
      (most - least) * (room + stepRoom + 8)

def room (backward : Bool) : Pattern → Nat
  | nothing | look _ => stepRoom
  | one set => setRoom backward set
  | sequence first second => first.room backward + second.room backward
  | choice first second =>
    first.room backward + second.room backward + if second.isChoice then 4 else 2 * stepRoom + 8
  | repeated inner least most =>
    let (least, most) :=
      if inner.isEmptyOnly then (min least 1, some (min (most.getD 1) 1)) else (least, most)
    repeatedRoom (inner.room backward) least inner.canBeEmpty most
  | group inner => inner.room backward + if backward then 0 else 2 * stepRoom

def roomLimit : Nat := 10485760

def isTooLarge (pattern : Pattern) : Bool :=
  roomLimit < pattern.room false + 208 || roomLimit < pattern.room true + 64

inductive Rejection where
  | faulty (fault : Fault)
  | tooLarge
  deriving DecidableEq, Repr

def Rejection.message (text : Text) : Rejection → Text
  | faulty fault => fault.message text
  | tooLarge => "Compiled regex exceeds size limit of " ++ Text.decimal roomLimit ++ " bytes."

def read (text : Text) : Except Rejection Pattern := do
  let (pattern, _) ← (Form.read text >>= Form.meaning .initial).mapError .faulty
  if pattern.isTooLarge then throw .tooLarge
  return pattern

end Pattern

end ShaderPair
