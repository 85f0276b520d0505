import ShaderPair.Text.Basic

/-! Decimal numerals as binary floating point numbers of 53 significant bits, and the
shortest positional numeral that stands for the same number. -/

namespace ShaderPair.Text.Binary

/-- A decimal numeral: `digits * 10 ^ (scaleUp - scaleDown)`. -/
structure Numeral where
  negative : Bool
  digits : Nat
  scaleUp : Nat
  scaleDown : Nat
  deriving DecidableEq, Repr

/-- A number `significand * 2 ^ (up - down)` with at most 53 bits in its significand. -/
structure Number where
  significand : Nat
  up : Nat
  down : Nat
  deriving DecidableEq, Repr

def twoTo (exponent : Nat) : Nat := Nat.pow 2 exponent

def tenTo (exponent : Nat) : Nat := Nat.pow 10 exponent

def smallestNormal : Nat := twoTo 52

def roundedQuotient (dividend divisor : Nat) : Nat :=
  let quotient := dividend / divisor
  let rest := 2 * (dividend % divisor)
  if rest > divisor || (rest == divisor && quotient % 2 == 1) then quotient + 1 else quotient

def nearest? (dividend divisor : Nat) : Option Number :=
  let exponent : Int := (dividend.log2 : Int) - divisor.log2 - 52
  let fits (exponent : Int) : Bool :=
    dividend * twoTo (-exponent).toNat < twoTo 53 * divisor * twoTo exponent.toNat
  let exponent := max (if fits (exponent - 1) then exponent - 1 else exponent) (-1074)
  let rounded := roundedQuotient (dividend * twoTo (-exponent).toNat) (divisor * twoTo exponent.toNat)
  let (significand, exponent) :=
    if rounded == twoTo 53 then (smallestNormal, exponent + 1) else (rounded, exponent)
  if exponent > 971 then none else some ⟨significand, exponent.toNat, (-exponent).toNat⟩

/-- The multiple of `10 ^ power` nearest to a number, the larger of two, if reading it gives the
number back. The numbers that read back lie within half the distance to the neighbours. -/
def multiple? (number : Number) (power : Int) : Option Nat :=
  let lowStep := if number.significand == smallestNormal && number.down < 1074 then 1 else 2
  let scale (quarters : Nat) : Nat := quarters * twoTo number.up * tenTo (-power).toNat
  let unit := 4 * twoTo number.down * tenTo power.toNat
  let value := scale (4 * number.significand)
  let low := scale (4 * number.significand - lowStep)
  let high := scale (4 * number.significand + 2)
  let even := number.significand % 2 == 0
  let reads (count : Nat) : Bool :=
    if even then low ≤ count * unit && count * unit ≤ high else low < count * unit && count * unit < high
  let below := value / unit
  let above := below + 1
  let belowFirst := value - below * unit < above * unit - value
  if reads below && (belowFirst || !reads above) then some below
  else if reads above then some above
  else none

def shortest? (number : Number) : Option (Nat × Int) :=
  (List.range 660).findSome? fun (step : Nat) =>
    let power : Int := 325 - (step : Int)
    (multiple? number power).map fun count => (count, power)

def positional (digits : Nat) (power : Int) : Text :=
  if power ≥ 0 then decimal digits ++ List.replicate power.toNat '0'
  else
    let places := (-power).toNat
    let row := decimal digits
    let row := List.replicate (places + 1 - row.length) '0' ++ row
    row.take (row.length - places) ++ "." ++ row.drop (row.length - places)

/-- The shortest numeral for the number nearest to a numeral. A numeral far outside the range of
numbers is as good as infinite or zero. -/
def Numeral.shown (numeral : Numeral) : Text :=
  let sign : Text := if numeral.negative then "-" else ""
  let size : Int := ((decimal numeral.digits).length : Int) + numeral.scaleUp - numeral.scaleDown
  if numeral.digits == 0 || size < -330 then sign ++ "0"
  else if size > 320 then sign ++ "inf"
  else match nearest? (numeral.digits * tenTo numeral.scaleUp) (tenTo numeral.scaleDown) with
    | none => sign ++ "inf"
    | some number =>
      match if number.significand == 0 then none else shortest? number with
      | some (digits, power) => sign ++ positional digits power
      | none => sign ++ "0"

def readExponent? : Text → Option Int
  | [] => some 0
  | mark :: rest =>
    if mark == 'e' || mark == 'E' then
      let (negative, digits) := match rest with
        | '-' :: digits => (true, digits)
        | '+' :: digits => (false, digits)
        | digits => (false, digits)
      if digits.isEmpty || !digits.all Char.isDigit then none
      else some (if negative then -(numeralValue digits : Int) else numeralValue digits)
    else none

def read? (text : Text) : Option Numeral :=
  let (negative, unsigned) := match text with
    | '-' :: rest => (true, rest)
    | '+' :: rest => (false, rest)
    | rest => (false, rest)
  let whole := unsigned.takeWhile Char.isDigit
  let (fraction, rest) := match unsigned.dropWhile Char.isDigit with
    | '.' :: rest => (rest.takeWhile Char.isDigit, rest.dropWhile Char.isDigit)
    | rest => ([], rest)
  if whole.isEmpty && fraction.isEmpty then none
  else (readExponent? rest).map fun exponent =>
    let power : Int := exponent - fraction.length
    ⟨negative, numeralValue (whole ++ fraction), power.toNat, (-power).toNat⟩

end ShaderPair.Text.Binary
