import ShaderPair.Text.Basic

/-! Texts between double quotes with escapes, as they stand in settings. -/

namespace ShaderPair.Text

def hexDigit? (c : Char) : Option Nat :=
  if c.isDigit then some (c.toNat - '0'.toNat)
  else if 'a' ≤ c && c ≤ 'f' then some (c.toNat - 'a'.toNat + 10)
  else if 'A' ≤ c && c ≤ 'F' then some (c.toNat - 'A'.toNat + 10)
  else none

def hexChar? (digits : Text) : Option Char := do
  let values ← digits.mapM hexDigit?
  let code := values.foldl (fun code value => 16 * code + value) 0
  if code.isValidChar then some (Char.ofNat code) else none

def simpleEscape? (c : Char) : Option Char :=
  if c == 'b' then some '\x08'
  else if c == 't' then some '\t'
  else if c == 'n' then some '\n'
  else if c == 'f' then some '\x0c'
  else if c == 'r' then some '\r'
  else if c == '"' then some '"'
  else if c == '\\' then some '\\'
  else none

/-- Control characters other than the tab have to be escaped. -/
def isQuotable (c : Char) : Bool := c == '\t' || (c.toNat ≥ 0x20 && c.toNat != 0x7F)

def readEscape? : Text → Option (Char × Text)
  | [] => none
  | mark :: rest =>
    if mark == 'u' || mark == 'U' then
      let count := if mark == 'u' then 4 else 8
      if rest.length < count then none
      else (hexChar? (rest.take count)).map fun c => (c, rest.drop count)
    else (simpleEscape? mark).map fun c => (c, rest)

/-- The text up to the closing quote, with its escapes resolved, and the text after the quote. At
most `limit` characters are read. -/
def readQuoted? : Nat → Text → Option (Text × Text)
  | 0, _ => none
  | _ + 1, [] => none
  | limit + 1, c :: rest =>
    if c == '"' then some ([], rest)
    else if c == '\\' then do
      let (escaped, rest) ← readEscape? rest
      let (inner, rest) ← readQuoted? limit rest
      some (escaped :: inner, rest)
    else if isQuotable c then do
      let (inner, rest) ← readQuoted? limit rest
      some (c :: inner, rest)
    else none

end ShaderPair.Text
