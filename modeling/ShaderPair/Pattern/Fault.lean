import ShaderPair.Text.Basic

/-! What can be wrong with the text of a pattern, and how it is told: the pattern, marks under the
place, and the cause. -/

namespace ShaderPair.Pattern

/-- A place in the text of a pattern. Lines and columns count from one. -/
structure Position where
  line : Nat
  column : Nat
  deriving DecidableEq, Repr

namespace Position

def start : Position := ⟨1, 1⟩

def after (position : Position) (c : Char) : Position :=
  if c == '\n' then ⟨position.line + 1, 1⟩ else { position with column := position.column + 1 }

def isBefore (one other : Position) : Bool :=
  one.line < other.line || (one.line == other.line && one.column < other.column)

end Position

structure Span where
  start : Position
  stop : Position
  deriving DecidableEq, Repr

inductive Cause where
  | classEscape
  | classRangeOrder
  | classRangeBound
  | classUnclosed
  | decimalInvalid
  | hexEmpty
  | hexInvalid
  | hexDigit
  | escapeIncomplete
  | escapeUnknown
  | flagDangling
  | flagDuplicate
  | flagNegatedTwice
  | flagMissing
  | flagUnknown
  | nameDuplicate
  | nameEmpty
  | nameInvalid
  | nameUnclosed
  | groupUnclosed
  | groupUnopened
  | nestedTooDeep (limit : Nat)
  | countOrder
  | countEmpty
  | countUnclosed
  | repetitionMissing
  | boundaryUnclosed
  | boundaryUnknown
  | boundaryIncomplete
  | propertyInvalid
  | backreference
  | lookAround
  | unicodeNotAllowed
  | invalidEncoding
  | propertyUnknown
  | propertyValueUnknown
  deriving DecidableEq, Repr

def Cause.message : Cause → Text
  | classEscape => "invalid escape sequence found in character class"
  | classRangeOrder => "invalid character class range, the start must be <= the end"
  | classRangeBound => "invalid range boundary, must be a literal"
  | classUnclosed => "unclosed character class"
  | decimalInvalid => "decimal literal invalid"
  | hexEmpty => "hexadecimal literal empty"
  | hexInvalid => "hexadecimal literal is not a Unicode scalar value"
  | hexDigit => "invalid hexadecimal digit"
  | escapeIncomplete => "incomplete escape sequence, reached end of pattern prematurely"
  | escapeUnknown => "unrecognized escape sequence"
  | flagDangling => "dangling flag negation operator"
  | flagDuplicate => "duplicate flag"
  | flagNegatedTwice => "flag negation operator repeated"
  | flagMissing => "expected flag but got end of regex"
  | flagUnknown => "unrecognized flag"
  | nameDuplicate => "duplicate capture group name"
  | nameEmpty => "empty capture group name"
  | nameInvalid => "invalid capture group character"
  | nameUnclosed => "unclosed capture group name"
  | groupUnclosed => "unclosed group"
  | groupUnopened => "unopened group"
  | nestedTooDeep limit =>
    "exceed the maximum number of nested parentheses/brackets (" ++ Text.decimal limit ++ ")"
  | countOrder => "invalid repetition count range, the start must be <= the end"
  | countEmpty => "repetition quantifier expects a valid decimal"
  | countUnclosed => "unclosed counted repetition"
  | repetitionMissing => "repetition operator missing expression"
  | boundaryUnclosed =>
    "special word boundary assertion is either unclosed or contains an invalid character"
  | boundaryUnknown =>
    "unrecognized special word boundary assertion, valid choices are: start, end, start-half or end-half"
  | boundaryIncomplete =>
    "found either the beginning of a special word boundary or a bounded repetition on a \\b with an " ++
      "opening brace, but no closing brace"
  | propertyInvalid => "invalid Unicode character class"
  | backreference => "backreferences are not supported"
  | lookAround => "look-around, including look-ahead and look-behind, is not supported"
  | unicodeNotAllowed => "Unicode not allowed here"
  | invalidEncoding => "pattern can match invalid UTF-8"
  | propertyUnknown => "Unicode property not found"
  | propertyValueUnknown => "Unicode property value not found"

structure Fault where
  cause : Cause
  span : Span
  earlier : Option Span := none
  deriving DecidableEq, Repr

namespace Fault

def spans (fault : Fault) : List Span :=
  match fault.earlier with
  | none => [fault.span]
  | some earlier =>
    if fault.span.start.isBefore earlier.start then [fault.span, earlier] else [earlier, fault.span]

/-- Marks under a line, after those for the stretches before. An empty stretch has one mark. -/
def marksFrom : Nat → List Span → Text
  | _, [] => []
  | column, span :: rest =>
    let blanks := span.start.column - 1 - column
    let marks := max 1 (span.stop.column - span.start.column)
    List.replicate blanks ' ' ++ List.replicate marks '^' ++ marksFrom (column + blanks + marks) rest

def noted (spans : List Span) (margin : Text) (line : Text) (number : Nat) : Text :=
  let within := spans.filter fun span => span.start.line == number && span.stop.line == number
  let marks : Text := List.replicate margin.length ' ' ++ marksFrom 0 within ++ ['\n']
  margin ++ line ++ ['\n'] ++ if within.isEmpty then [] else marks

def lineNumber (width number : Nat) : Text :=
  List.replicate (width - (Text.decimal number).length) ' ' ++ Text.decimal number

def across (span : Span) : Text :=
  "on line " ++ Text.decimal span.start.line ++ " (column " ++ Text.decimal span.start.column ++
    ") through line " ++ Text.decimal span.stop.line ++ " (column " ++
    Text.decimal (span.stop.column - 1) ++ ")\n"

def divider : Text := List.replicate 79 '~' ++ "\n"

def picture (fault : Fault) (pattern : Text) : Text :=
  let lines := Text.lines pattern
  let numbered := lines.zip (List.range lines.length)
  if pattern.any (· == '\n') then
    let count := if pattern.getLast? == some '\n' then lines.length + 1 else lines.length
    let width := if count ≤ 1 then 0 else (Text.decimal count).length
    let margin : Nat → Text := fun number =>
      if width == 0 then "    " else lineNumber width number ++ ": "
    divider ++
      numbered.flatMap (fun (line, index) => noted fault.spans (margin (index + 1)) line (index + 1)) ++
      divider ++ (fault.spans.filter fun span => span.start.line != span.stop.line).flatMap across
  else numbered.flatMap fun (line, index) => noted fault.spans "    " line (index + 1)

def message (fault : Fault) (pattern : Text) : Text :=
  "regex parse error:\n" ++ fault.picture pattern ++ "error: " ++ fault.cause.message

end Fault

end ShaderPair.Pattern
