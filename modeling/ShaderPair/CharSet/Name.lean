import ShaderPair.CharSet.Property
import ShaderPair.CharSet.Script

/-! Sets of characters by the name of a property, or by a property and its value. -/

namespace ShaderPair.CharSet

inductive NameFault where
  | unknownProperty
  | unknownValue
  deriving DecidableEq, Repr

/-- Names are compared without case, blanks, hyphens, underscores and a leading `is`. A single `c`
after that word names something else than the category. -/
def normalName (name : Text) : Text :=
  let asserted := Text.lower (name.take 2) == ['i', 's']
  let kept := Text.lower ((if asserted then name.drop 2 else name).filter fun c =>
    c != ' ' && c != '-' && c != '_' && c.toNat < 128)
  if asserted && kept == ['c'] then "isc" else kept

def valuedProperties : List Text := Text.words (
  "age bc bidiclass blk block bmg bidimirroringglyph bpb bidipairedbracket bpt " ++
  "bidipairedbrackettype ccc canonicalcombiningclass casefolding dm decompositionmapping dt " ++
  "decompositiontype ea eastasianwidth equideo equivalentunifiedideograph gc " ++
  "generalcategory gcb graphemeclusterbreak hst hangulsyllabletype incb indicconjunctbreak " ++
  "inpc indicpositionalcategory insc indicsyllabiccategory isc isocomment jg joininggroup " ++
  "jsn jamoshortname jt joiningtype lb linebreak lowercasemapping na name na1 unicode1name " ++
  "namealias nfcqc nfcquickcheck nfdqc nfdquickcheck nfkccf nfkccasefold nfkcqc " ++
  "nfkcquickcheck nfkdqc nfkdquickcheck nt numerictype nv numericvalue sb sentencebreak " ++
  "script scf sfc simplecasefolding scx scriptextensions slc simplelowercasemapping stc " ++
  "simpletitlecasemapping suc simpleuppercasemapping tc titlecasemapping uc " ++
  "uppercasemapping vo verticalorientation wb wordbreak")

def category? (name : Text) : Option (Except NameFault CharSet) :=
  if name == "any" then some (.ok all)
  else if name == "assigned" then some (.ok (Category.set .unassigned).complement)
  else if name == "ascii" then some (.ok ⟨[(0, 0x7F)]⟩)
  else if Category.emptyNames.contains name then some (.error .unknownValue)
  else (Category.groups.find? (·.names.contains name)).map fun group => .ok (ofCategories group.members)

def script? (name : Text) : Option (Except NameFault CharSet) :=
  (scripts.find? (·.names.contains name)).map fun script =>
    if script.runs.isEmpty then .error .unknownValue else .ok ⟨script.runs⟩

/-- Names that a category and a property share; alone they mean the category. -/
def sharedNames : List Text := ["cf", "sc", "lc"]

/-- The set a single name stands for: a property, else a category, else a script. -/
def byName (name : Text) : Except NameFault CharSet :=
  let name := normalName name
  match property? name with
  | some set => .ok set
  | none =>
    if valuedProperties.contains name then .error .unknownProperty
    else ((category? name).orElse fun _ => script? name).getD (.error .unknownProperty)

def byValue (property value : Text) : Except NameFault CharSet :=
  let property := normalName property
  let value := normalName value
  if property == "gc" || property == "generalcategory" then
    (category? value).getD (.error .unknownValue)
  else if property == "sc" || property == "script" || property == "scx" ||
      property == "scriptextensions" then
    (script? value).getD (.error .unknownValue)
  else if sharedNames.contains property || valuedProperties.contains property ||
      (property? property).isSome then
    .error .unknownValue
  else .error .unknownProperty

end ShaderPair.CharSet
