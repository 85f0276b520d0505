import ShaderPair.Text.Utf8

/-! Text as it is shown outside a terminal: without control characters, other than those that lay
the text out, and without control sequences. Layout inside a sequence interrupts it: text is shown up
to the next control character, and there the sequence goes on. -/

namespace ShaderPair.Text.Terminal

/-- What the characters before a place belong to. -/
inductive Mode where
  | plain
  | escape
  | selection
  /-- A control sequence with parameters, up to its final letter. -/
  | control
  /-- A command to the terminal's surroundings, up to a bell. -/
  | command
  | device
  | deviceParameters
  | deviceClass
  | string
  deriving DecidableEq, Repr

def isWithin (first last c : Char) : Bool := first ≤ c && c ≤ last

def isLayout (c : Char) : Bool := c == '\t' || c == '\n' || c == '\x0c' || c == '\r'

/-- Whether a character is shown in a mode. Inside strings and commands layout is hidden too. -/
def Mode.shows : Mode → Char → Bool
  | plain, c => isLayout c || (' ' ≤ c && c != '\x7f')
  | escape, c | selection, c | control, c => isLayout c
  | command, _ | device, _ | deviceParameters, _ | deviceClass, _ | string, _ => false

/-- The terminator of a string is a byte, also one within a longer character. -/
def endsString (c : Char) : Bool := (toUtf8 [c]).any (· == 0x9C)

def afterEscape (c : Char) : Mode :=
  if c == '[' then .control
  else if c == ']' then .command
  else if c == 'P' then .device
  else if c == 'X' || c == '^' || c == '_' then .string
  else if isWithin ' ' '/' c then .selection
  else if isWithin '0' '~' c then .plain
  else .escape

def afterDevice (c : Char) : Mode :=
  if isWithin ' ' '/' c then .deviceClass
  else if isWithin '0' '?' c then .deviceParameters
  else if isWithin '@' '~' c then .string
  else .device

/-- The mode after a character among the parameters of a device string. A private mark is out of
place there and makes the rest a string to skip. -/
def afterDeviceParameter (c : Char) : Mode :=
  if isWithin ' ' '/' c then .deviceClass
  else if isWithin '<' '~' c then .string
  else .deviceParameters

/-- The mode after a character that is not shown. Two characters cancel any sequence. -/
def Mode.after (mode : Mode) (c : Char) : Mode :=
  if c == '\x1b' then .escape
  else if c == '\x18' || c == '\x1a' then .plain
  else match mode with
    | plain => .plain
    | escape => afterEscape c
    | selection => if isWithin '0' '~' c then .plain else .selection
    | control => if isWithin '@' '~' c then .plain else .control
    | command => if c == '\x07' then .plain else .command
    | device => afterDevice c
    | deviceParameters => afterDeviceParameter c
    | deviceClass => if isWithin '0' '~' c then .string else .deviceClass
    | string => if endsString c then .plain else .string

/-- The mode after a character that is shown: characters beyond ASCII end a sequence. -/
def Mode.afterShown (mode : Mode) (c : Char) : Mode := if c.toNat < 128 then mode else .plain

inductive Reading where
  | within (mode : Mode)
  /-- Showing text, with what the mode says interrupted. -/
  | showing (mode : Mode)
  deriving DecidableEq, Repr

def Reading.mode : Reading → Mode
  | within mode | showing mode => mode

def Reading.shows : Reading → Char → Bool
  | within mode, c => mode.shows c
  | showing _, c => Mode.plain.shows c

/-- What is shown interrupts the mode, and what is not resumes it. -/
def Reading.next (reading : Reading) (c : Char) : Reading :=
  if reading.shows c then .showing (reading.mode.afterShown c) else .within (reading.mode.after c)

def shownFrom : Reading → Text → Text
  | _, [] => []
  | reading, c :: rest =>
    if reading.shows c then c :: shownFrom (reading.next c) rest else shownFrom (reading.next c) rest

end ShaderPair.Text.Terminal

namespace ShaderPair.Text

def visible (text : Text) : Text := Terminal.shownFrom (.within .plain) text

end ShaderPair.Text
