import ShaderPair.Text.Binary
import ShaderPair.Text.Escape

/-! Values of settings. Only texts are of use; the others are told apart to say what was found. -/

namespace ShaderPair.Settings

inductive Value where
  | text (value : Text)
  | flag (value : Bool)
  | unsigned (value : Nat)
  | signed (value : Int)
  | float (shown : Text)
  | sequence
  | map
  deriving DecidableEq, Repr

def signedText (value : Int) : Text :=
  if value < 0 then "-" ++ Text.decimal value.natAbs else Text.decimal value.natAbs

def Value.found : Value → Text
  | text value => "string \"" ++ value ++ "\""
  | flag value => if value then "bool true" else "bool false"
  | unsigned value => "unsigned int `" ++ Text.decimal value ++ "`"
  | signed value => "signed int `" ++ signedText value ++ "`"
  | float shown => "float `" ++ shown ++ "`"
  | sequence => "sequence"
  | map => "map"

def signedLimit : Nat := 9223372036854775808

def readSigned? (text : Text) : Option Int :=
  let (negative, digits) := match text with
    | '-' :: rest => (true, rest)
    | '+' :: rest => (false, rest)
    | rest => (false, rest)
  let value := Text.numeralValue digits
  if digits.isEmpty || !digits.all Char.isDigit then none
  else if negative then if value ≤ signedLimit then some (-(value : Int)) else none
  else if value < signedLimit then some value else none

/-- Items up to a closing mark, with commas between them. An item gives the text after it, and
`skip` passes over what may stand after a comma. -/
def readSeries? (skip : Text → Text) (item : Text → Option Text) (closing : Char) :
    Nat → Text → Option Text
  | 0, _ => none
  | _ + 1, [] => none
  | limit + 1, c :: rest =>
    if c == closing then some rest
    else match item (c :: rest) with
      | none => none
      | some [] => none
      | some (mark :: rest) =>
        if mark == ',' then readSeries? skip item closing limit (skip rest)
        else if mark == closing then some rest
        else none

end ShaderPair.Settings
