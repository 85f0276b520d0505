/-! Text is a list of Unicode scalar values. A string literal stands for its characters.
The operations here are the ones shader text, header fields and settings are read with:
trimming, splitting at marks, words and lines. Blank means the Unicode property
`White_Space`; letter case is that of ASCII. -/

namespace ShaderPair

abbrev Text := List Char

instance : Coe String Text := ⟨String.toList⟩

namespace Text

/-- The characters with the property `White_Space`. -/
def isBlank (c : Char) : Bool :=
  let code := c.toNat
  (9 ≤ code && code ≤ 13) || code == 0x20 || code == 0x85 || code == 0xA0 || code == 0x1680 ||
    (0x2000 ≤ code && code ≤ 0x200A) || code == 0x2028 || code == 0x2029 || code == 0x202F ||
    code == 0x205F || code == 0x3000

def AreBlanks (text : Text) : Prop := text ≠ [] ∧ ∀ c ∈ text, isBlank c = true

def trimStart (text : Text) : Text := text.dropWhile isBlank

def trimEnd (text : Text) : Text := (text.reverse.dropWhile isBlank).reverse

def trim (text : Text) : Text := trimEnd (trimStart text)

theorem trimEnd_append (left right : Text) :
    trimEnd (left ++ right) = if trimEnd right = [] then trimEnd left else left ++ trimEnd right := by
  rw [trimEnd, List.reverse_append, List.dropWhile_append]
  simp only [trimEnd, List.isEmpty_iff, List.reverse_eq_nil_iff]
  split
  · rfl
  · rw [List.reverse_append, List.reverse_reverse]

theorem prefix_trimEnd (text : Text) : trimEnd text <+: text := by
  rw [trimEnd, ← List.reverse_suffix, List.reverse_reverse]
  exact List.dropWhile_suffix _

def lower (text : Text) : Text := text.map Char.toLower

def upper (text : Text) : Text := text.map Char.toUpper

def sameLetters (left right : Text) : Bool := lower left == lower right

/-- The pieces between marks. There is one piece more than there are marks. -/
def split (isMark : Char → Bool) : Text → List Text
  | [] => [[]]
  | c :: rest =>
    if isMark c then [] :: split isMark rest
    else match split isMark rest with
      | [] => [[c]]
      | piece :: pieces => (c :: piece) :: pieces

theorem split_ne_nil (isMark : Char → Bool) (text : Text) : split isMark text ≠ [] := by
  induction text with
  | nil => simp [split]
  | cons c rest ih =>
    unfold split
    split
    · simp
    · split <;> simp

def words (text : Text) : List Text := (split isBlank text).filter (!·.isEmpty)

/-- A carriage return right before the line feed belongs to the line end. -/
def dropReturn (line : Text) : Text :=
  if line.getLast? = some '\r' then line.dropLast else line

/-- Line ends are removed from every piece but the last, which counts as a line
only when something stands on it. -/
def closeLines : List Text → List Text
  | [] => []
  | [last] => if last.isEmpty then [] else [last]
  | line :: next :: rest => dropReturn line :: closeLines (next :: rest)

/-- The lines of a text, ended by `\n` or `\r\n`. -/
def lines (text : Text) : List Text := closeLines (split (· == '\n') text)

def cut? (mark : Text) : Text → Option (Text × Text)
  | [] => if mark.isEmpty then some ([], []) else none
  | c :: rest =>
    if mark.isPrefixOf (c :: rest) then some ([], (c :: rest).drop mark.length)
    else (cut? mark rest).map fun halves => (c :: halves.1, halves.2)

def contains (mark text : Text) : Bool := (cut? mark text).isSome

theorem cut?_eq_some {mark text before after : Text} (found : cut? mark text = some (before, after)) :
    text = before ++ mark ++ after := by
  induction text generalizing before with
  | nil =>
    unfold cut? at found
    split at found
    · next empty =>
      cases found
      simp [List.isEmpty_iff.mp empty]
    · cases found
  | cons c rest ih =>
    unfold cut? at found
    split at found
    · next starts =>
      cases found
      obtain ⟨tail, same⟩ := List.isPrefixOf_iff_prefix.mp starts
      simp [← same]
    · obtain ⟨halves, inner, same⟩ := Option.map_eq_some_iff.mp found
      cases same
      simp [ih inner]

def hasZero (text : Text) : Bool := text.any (·.toNat == 0)

def startsWith (opening text : Text) : Bool := opening.isPrefixOf text

def after? (opening text : Text) : Option Text :=
  if startsWith opening text then some (text.drop opening.length) else none

theorem after?_eq_some {opening text rest : Text} : after? opening text = some rest ↔ text = opening ++ rest := by
  unfold after? startsWith
  constructor
  · intro found
    split at found
    · next starts =>
      obtain ⟨tail, rfl⟩ := List.isPrefixOf_iff_prefix.mp starts
      rw [List.drop_left, Option.some.injEq] at found
      rw [found]
    · cases found
  · rintro rfl
    rw [if_pos (List.isPrefixOf_iff_prefix.mpr (List.prefix_append opening rest)), List.drop_left]

theorem after?_cons (c : Char) (opening rest : Text) : after? (c :: opening) (c :: rest) = after? opening rest := by
  simp [after?, startsWith, List.isPrefixOf]

def suffixes : Text → List Text
  | [] => [[]]
  | c :: rest => (c :: rest) :: suffixes rest

def lineSuffixes (text : Text) : List Text :=
  text :: text.suffixes.filterMap fun suffix => after? ['\n'] suffix

def indentRest (width : Nat) (text : Text) : Text :=
  text.flatMap fun c => if c == '\n' then c :: List.replicate width ' ' else [c]

def join (separator : Text) : List Text → Text
  | [] => []
  | [last] => last
  | text :: next :: rest => text ++ separator ++ join separator (next :: rest)

/-! Decimal numerals of natural numbers, and the machine words read from them. -/

def decimal (number : Nat) : Text := Nat.toDigits 10 number

def numeralValue (digits : Text) : Nat := Nat.ofDigitChars 10 digits 0

theorem numeralValue_decimal (number : Nat) : numeralValue (decimal number) = number :=
  Nat.ofDigitChars_toDigits (by decide) (by decide)

def wordLimit : Nat := 18446744073709551616

/-- A machine word: digits after an optional plus sign, leading zeros allowed. -/
def readWord? (text : Text) : Option Nat :=
  let digits := (after? "+" text).getD text
  if !digits.isEmpty && digits.all Char.isDigit && numeralValue digits < wordLimit then
    some (numeralValue digits)
  else none

end Text

end ShaderPair
