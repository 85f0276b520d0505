import ShaderPair.CharSet.Folding
import ShaderPair.CharSet.Name
import ShaderPair.Pattern.Form

/-! The pattern a form stands for. Flags hold from where they are changed to the end of the group. -/

namespace ShaderPair.Pattern

structure Flags where
  ignoreCase : Bool
  multiLine : Bool
  dotAll : Bool
  unicode : Bool
  anyLineEnd : Bool
  deriving DecidableEq, Repr

namespace Flags

def initial : Flags := ⟨false, false, false, true, false⟩

/-- Flags that have no say in where a pattern is found are passed over. -/
def change (flags : Flags) : Flag × Bool → Flags
  | (.ignoreCase, value) => { flags with ignoreCase := value }
  | (.multiLine, value) => { flags with multiLine := value }
  | (.dotAll, value) => { flags with dotAll := value }
  | (.unicode, value) => { flags with unicode := value }
  | (.anyLineEnd, value) => { flags with anyLineEnd := value }
  | (.swapGreed, _) | (.ignoreBlanks, _) => flags

def changeAll (flags : Flags) (changes : FlagChanges) : Flags := changes.foldl change flags

def fold (flags : Flags) (set : CharSet) : CharSet :=
  if !flags.ignoreCase then set else if flags.unicode then set.folded else set.foldedAscii

/-- A set of bytes must stay within ASCII, as other bytes are no characters. -/
def checked (flags : Flags) (span : Span) (set : CharSet) : Except Fault CharSet :=
  if flags.unicode || set.isAscii then .ok set else .error ⟨.invalidEncoding, span, none⟩

def negate (flags : Flags) (span : Span) (negated : Bool) (set : CharSet) : Except Fault CharSet :=
  flags.checked span (if negated then set.complement else set)

end Flags

def digits : CharSet := Category.set .decimalNumber

def words : CharSet := .ofRuns ([(0x30, 0x39), (0x41, 0x5A), (0x5F, 0x5F), (0x61, 0x7A)] ++ Text.wordRanges)

def blanks : CharSet := (CharSet.property? "whitespace").getD .empty

def CharKind.set : CharKind → CharSet
  | digit => digits
  | word => words
  | blank => blanks

def CharKind.asciiSet (kind : CharKind) : CharSet := kind.set.intersection ⟨[(0, 0x7F)]⟩

def PropertyName.set : PropertyName → Except CharSet.NameFault CharSet
  | name text => CharSet.byName text
  | value property text => CharSet.byValue property text

def nameCause : CharSet.NameFault → Cause
  | .unknownProperty => .propertyUnknown
  | .unknownValue => .propertyValueUnknown

/-- A character that was written as a byte has to be an ASCII one where bytes are meant. -/
def Literal.checked (flags : Flags) (literal : Literal) : Except Fault Char :=
  if flags.unicode || literal.char.toNat < 128 || !literal.isByte then .ok literal.char
  else .error ⟨.invalidEncoding, literal.span, none⟩

def Literal.inClass (flags : Flags) (literal : Literal) : Except Fault Char := do
  let c ← literal.checked flags
  if flags.unicode || c.toNat < 128 then return c
  throw ⟨.unicodeNotAllowed, literal.span, none⟩

def SetOperation.apply : SetOperation → CharSet → CharSet → CharSet
  | intersection => CharSet.intersection
  | difference => CharSet.difference
  | symmetricDifference => CharSet.symmetricDifference

namespace ClassForm

def set (flags : Flags) : ClassForm → Except Fault CharSet
  | char literal => return .single (← literal.inClass flags)
  | range first last => return .span (← first.inClass flags) (← last.inClass flags)
  | ascii span runs negated => flags.negate span negated (flags.fold ⟨runs⟩)
  | kind span charKind negated =>
    flags.negate span negated (if flags.unicode then charKind.set else charKind.asciiSet)
  | property span name negated =>
    if !flags.unicode then throw ⟨.unicodeNotAllowed, span, none⟩
    else match name.set with
      | .ok found => flags.negate span negated (flags.fold found)
      | .error fault => throw ⟨nameCause fault, span, none⟩
  | bracketed span negated inner => do flags.negate span negated (flags.fold (← inner.set flags))
  | union _ items => return .unions (← sets flags items)
  | operation _ operator left right => do
    let leftSet ← left.set flags
    let rightSet ← right.set flags
    return operator.apply (flags.fold leftSet) (flags.fold rightSet)
where
  sets (flags : Flags) : List ClassForm → Except Fault (List CharSet)
    | [] => return []
    | item :: items => return (← item.set flags) :: (← sets flags items)

end ClassForm

def Assertion.look (flags : Flags) : Assertion → Look
  | lineStart =>
    if !flags.multiLine then .textStart else if flags.anyLineEnd then .anyLineStart else .lineStart
  | lineEnd => if !flags.multiLine then .textEnd else if flags.anyLineEnd then .anyLineEnd else .lineEnd
  | textStart => .textStart
  | textEnd => .textEnd
  | word position => if flags.unicode then .word position else .asciiWord position

def dotSet (flags : Flags) : CharSet :=
  if flags.dotAll then .all
  else if flags.anyLineEnd then (CharSet.ofRuns [(0xA, 0xA), (0xD, 0xD)]).complement
  else (CharSet.single '\n').complement

def andThen : Pattern → Pattern → Pattern
  | nothing, second => second
  | first, nothing => first
  | first, second => sequence first second

namespace Form

/-- The pattern of a form, and the flags that hold after it. -/
def meaning (flags : Flags) : Form → Except Fault (Pattern × Flags)
  | empty => return (nothing, flags)
  | Form.flags changes => return (nothing, flags.changeAll changes)
  | char literal => return (one (flags.fold (.single (← literal.checked flags))), flags)
  | dot span =>
    if flags.unicode then return (one (dotSet flags), flags)
    else throw ⟨.invalidEncoding, span, none⟩
  | assertion _ condition => return (look (condition.look flags), flags)
  | charClass form => return (one (← form.set flags), flags)
  | Form.repeated _ inner least most => do
    let (pattern, after) ← inner.meaning flags
    return (.repeated pattern least most, after)
  | Form.group _ captures changes inner => do
    let (pattern, _) ← inner.meaning (flags.changeAll changes)
    return (if captures then .group pattern else pattern, flags)
  | Form.choice _ forms => do
    let (patterns, after) ← meanings flags forms
    return (choices patterns, after)
  | Form.sequence _ forms => do
    let (patterns, after) ← meanings flags forms
    return (patterns.foldr andThen nothing, after)
where
  meanings (flags : Flags) : List Form → Except Fault (List Pattern × Flags)
    | [] => return ([], flags)
    | form :: forms => do
      let (pattern, between) ← form.meaning flags
      let (patterns, after) ← meanings between forms
      return (pattern :: patterns, after)
  choices : List Pattern → Pattern
    | [] => nothing
    | [pattern] => pattern
    | pattern :: patterns => .choice pattern (choices patterns)

end Form

end ShaderPair.Pattern
