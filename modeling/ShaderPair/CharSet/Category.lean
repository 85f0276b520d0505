import ShaderPair.CharSet.Letter
import ShaderPair.CharSet.Mark
import ShaderPair.CharSet.Number
import ShaderPair.CharSet.Punctuation
import ShaderPair.CharSet.Symbol

/-! General categories: every character has exactly one, and groups of them have names too. -/

namespace ShaderPair

inductive Category where
  | uppercaseLetter
  | lowercaseLetter
  | titlecaseLetter
  | modifierLetter
  | otherLetter
  | nonspacingMark
  | spacingMark
  | enclosingMark
  | decimalNumber
  | letterNumber
  | otherNumber
  | connectorPunctuation
  | dashPunctuation
  | openPunctuation
  | closePunctuation
  | initialPunctuation
  | finalPunctuation
  | otherPunctuation
  | mathSymbol
  | currencySymbol
  | modifierSymbol
  | otherSymbol
  | spaceSeparator
  | lineSeparator
  | paragraphSeparator
  | control
  | format
  | privateUse
  | unassigned
  deriving DecidableEq, Repr

namespace Category

def letters : List Category :=
  [uppercaseLetter, lowercaseLetter, titlecaseLetter, modifierLetter, otherLetter]

def marks : List Category := [nonspacingMark, spacingMark, enclosingMark]

def numbers : List Category := [decimalNumber, letterNumber, otherNumber]

def punctuation : List Category :=
  [connectorPunctuation, dashPunctuation, openPunctuation, closePunctuation, initialPunctuation,
    finalPunctuation, otherPunctuation]

def symbols : List Category := [mathSymbol, currencySymbol, modifierSymbol, otherSymbol]

def separators : List Category := [spaceSeparator, lineSeparator, paragraphSeparator]

def others : List Category := [control, format, privateUse, unassigned]

def assignedRuns : Category → List (Nat × Nat)
  | uppercaseLetter => CharSet.uppercaseRuns ++ CharSet.everyOther CharSet.uppercaseRunsAlternating
  | lowercaseLetter => CharSet.lowercaseRuns ++ CharSet.everyOther CharSet.lowercaseRunsAlternating
  | titlecaseLetter => CharSet.titlecaseRuns
  | modifierLetter => CharSet.modifierLetterRuns
  | otherLetter => CharSet.otherLetterRuns
  | nonspacingMark => CharSet.nonspacingRuns
  | spacingMark => CharSet.spacingRuns
  | enclosingMark => CharSet.enclosingRuns
  | decimalNumber => CharSet.decimalRuns
  | letterNumber => CharSet.letterNumberRuns
  | otherNumber => CharSet.otherNumberRuns
  | connectorPunctuation => CharSet.connectorRuns
  | dashPunctuation => CharSet.dashRuns
  | openPunctuation => CharSet.openingRuns ++ CharSet.everyOther CharSet.openingRunsAlternating
  | closePunctuation => CharSet.closingRuns ++ CharSet.everyOther CharSet.closingRunsAlternating
  | initialPunctuation => CharSet.initialQuoteRuns
  | finalPunctuation => CharSet.finalQuoteRuns
  | otherPunctuation => CharSet.otherPunctuationRuns
  | mathSymbol => CharSet.mathRuns
  | currencySymbol => CharSet.currencyRuns
  | modifierSymbol => CharSet.modifierSymbolRuns
  | otherSymbol => CharSet.otherSymbolRuns
  | spaceSeparator => [
    (0x20, 0x20), (0xA0, 0xA0), (0x1680, 0x1680), (0x2000, 0x200A), (0x202F, 0x202F),
    (0x205F, 0x205F), (0x3000, 0x3000)]
  | lineSeparator => [(0x2028, 0x2028)]
  | paragraphSeparator => [(0x2029, 0x2029)]
  | control => [(0x0, 0x1F), (0x7F, 0x9F)]
  | format => [
    (0xAD, 0xAD), (0x600, 0x605), (0x61C, 0x61C), (0x6DD, 0x6DD), (0x70F, 0x70F),
    (0x890, 0x891), (0x8E2, 0x8E2), (0x180E, 0x180E), (0x200B, 0x200F), (0x202A, 0x202E),
    (0x2060, 0x2064), (0x2066, 0x206F), (0xFEFF, 0xFEFF), (0xFFF9, 0xFFFB), (0x110BD, 0x110BD),
    (0x110CD, 0x110CD), (0x13430, 0x1343F), (0x1BCA0, 0x1BCA3), (0x1D173, 0x1D17A), (0xE0001, 0xE0001),
    (0xE0020, 0xE007F)]
  | privateUse => [(0xE000, 0xF8FF), (0xF0000, 0xFFFFD), (0x100000, 0x10FFFD)]
  | unassigned => []

def assigned : List Category :=
  letters ++ marks ++ numbers ++ punctuation ++ symbols ++ separators ++ [control, format, privateUse]

/-- Code points that stand for halves of characters, and are none. -/
def halves : List (Nat × Nat) := [(0xD800, 0xDFFF)]

def assignedSet : CharSet := .ofRuns (assigned.flatMap assignedRuns)

def set (category : Category) : CharSet :=
  if category == unassigned then (assignedSet.union ⟨halves⟩).complement
  else .ofRuns category.assignedRuns

/-- A category or a group of them, with its names in lower case without separators. -/
structure Group where
  names : List Text
  members : List Category

def groups : List Group := [
  ⟨["l", "letter"], letters⟩,
  ⟨["lc", "casedletter"], [uppercaseLetter, lowercaseLetter, titlecaseLetter]⟩,
  ⟨["lu", "uppercaseletter"], [uppercaseLetter]⟩,
  ⟨["ll", "lowercaseletter"], [lowercaseLetter]⟩,
  ⟨["lt", "titlecaseletter"], [titlecaseLetter]⟩,
  ⟨["lm", "modifierletter"], [modifierLetter]⟩,
  ⟨["lo", "otherletter"], [otherLetter]⟩,
  ⟨["m", "mark", "combiningmark"], marks⟩,
  ⟨["mn", "nonspacingmark"], [nonspacingMark]⟩,
  ⟨["mc", "spacingmark"], [spacingMark]⟩,
  ⟨["me", "enclosingmark"], [enclosingMark]⟩,
  ⟨["n", "number"], numbers⟩,
  ⟨["nd", "decimalnumber", "digit"], [decimalNumber]⟩,
  ⟨["nl", "letternumber"], [letterNumber]⟩,
  ⟨["no", "othernumber"], [otherNumber]⟩,
  ⟨["p", "punctuation", "punct"], punctuation⟩,
  ⟨["pc", "connectorpunctuation"], [connectorPunctuation]⟩,
  ⟨["pd", "dashpunctuation"], [dashPunctuation]⟩,
  ⟨["ps", "openpunctuation"], [openPunctuation]⟩,
  ⟨["pe", "closepunctuation"], [closePunctuation]⟩,
  ⟨["pi", "initialpunctuation"], [initialPunctuation]⟩,
  ⟨["pf", "finalpunctuation"], [finalPunctuation]⟩,
  ⟨["po", "otherpunctuation"], [otherPunctuation]⟩,
  ⟨["s", "symbol"], symbols⟩,
  ⟨["sm", "mathsymbol"], [mathSymbol]⟩,
  ⟨["sc", "currencysymbol"], [currencySymbol]⟩,
  ⟨["sk", "modifiersymbol"], [modifierSymbol]⟩,
  ⟨["so", "othersymbol"], [otherSymbol]⟩,
  ⟨["z", "separator"], separators⟩,
  ⟨["zs", "spaceseparator"], [spaceSeparator]⟩,
  ⟨["zl", "lineseparator"], [lineSeparator]⟩,
  ⟨["zp", "paragraphseparator"], [paragraphSeparator]⟩,
  ⟨["c", "other"], others⟩,
  ⟨["cc", "control", "cntrl"], [control]⟩,
  ⟨["cf", "format"], [format]⟩,
  ⟨["co", "privateuse"], [privateUse]⟩,
  ⟨["cn", "unassigned"], [unassigned]⟩]

def emptyNames : List Text := ["cs", "surrogate"]

end Category

end ShaderPair
