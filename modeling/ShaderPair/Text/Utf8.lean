import ShaderPair.Text.Basic

/-! Texts as UTF-8 bytes. Reading replaces each maximal part that cannot begin or continue a
character by the replacement character, so no byte can disturb the text around it. -/

namespace ShaderPair

abbrev Bytes := List UInt8

namespace Text

def toUtf8 (text : Text) : Bytes := text.flatMap String.utf8EncodeChar

def utf8Length (text : Text) : Nat := (toUtf8 text).length

def replacement : Char := Char.ofNat 0xFFFD

/-- What a first byte above ASCII begins: `following` more bytes, the next one between `low` and
`high`. Its own share of the character's bits counts modulo `span`. -/
structure Lead where
  low : UInt8
  high : UInt8
  following : Nat
  span : Nat

def lead? (byte : UInt8) : Option Lead :=
  if byte < 0xC2 then none
  else if byte < 0xE0 then some ⟨0x80, 0xBF, 1, 32⟩
  else if byte = 0xE0 then some ⟨0xA0, 0xBF, 2, 16⟩
  else if byte = 0xED then some ⟨0x80, 0x9F, 2, 16⟩
  else if byte < 0xF0 then some ⟨0x80, 0xBF, 2, 16⟩
  else if byte = 0xF0 then some ⟨0x90, 0xBF, 3, 8⟩
  else if byte < 0xF4 then some ⟨0x80, 0xBF, 3, 8⟩
  else if byte = 0xF4 then some ⟨0x80, 0x8F, 3, 8⟩
  else none

/-- A character that waits for `following + 1` bytes, the next one between `low` and `high`. -/
structure Pending where
  bits : Nat
  low : UInt8
  high : UInt8
  following : Nat

def beginChar (byte : UInt8) : Text × Option Pending :=
  if byte < 0x80 then ([Char.ofNat byte.toNat], none)
  else match lead? byte with
    | some lead => ([], some ⟨byte.toNat % lead.span, lead.low, lead.high, lead.following - 1⟩)
    | none => ([replacement], none)

/-- A byte that continues a waiting character, or makes it give way to the next one. -/
def continueChar (pending : Pending) (byte : UInt8) : Text × Option Pending :=
  if pending.low ≤ byte && byte ≤ pending.high then
    let bits := 64 * pending.bits + byte.toNat % 64
    match pending.following with
    | 0 => ([Char.ofNat bits], none)
    | following + 1 => ([], some ⟨bits, 0x80, 0xBF, following⟩)
  else (replacement :: (beginChar byte).1, (beginChar byte).2)

def decodeStep : Option Pending → UInt8 → Text × Option Pending
  | none, byte => beginChar byte
  | some pending, byte => continueChar pending byte

/-- A character still waiting at the end is replaced. -/
def decode (waiting : Option Pending) : Bytes → Text
  | [] => if waiting.isSome then [replacement] else []
  | byte :: rest => (decodeStep waiting byte).1 ++ decode (decodeStep waiting byte).2 rest

def ofUtf8 (bytes : Bytes) : Text := decode none bytes

end Text

end ShaderPair
