import ShaderPair.Proofs.HeaderLines
import ShaderPair.Proofs.HiddenWords
import ShaderPair.Proofs.LetterCase
import ShaderPair.Proofs.WrittenNames

/-! Hidden semantics come back. A reserved semantic leaves the source as a placeholder, is named by the header of
the translated stage in whatever case, and is put back where the body uses the generated name. The main statement
follows one row of the table all the way. -/

namespace ShaderPair

namespace Semantic

theorem canonical_of_sameLetters {first second : Text} (same : Text.sameLetters first second = true) :
    canonical first = canonical second :=
  canonical_eq_canonical.mpr (Text.sameLetters_iff.mp same)

theorem get?_hiddenNames {placeholder semantic : Text} (row : (placeholder, semantic) ∈ placeholders) :
    hiddenNames.get? (Text.upper semantic) = some (Text.upper placeholder) := by
  have all : ∀ pair ∈ placeholders, hiddenNames.get? (Text.upper pair.2) = some (Text.upper pair.1) := by decide
  exact all _ row

theorem getElem?_hide {placeholder semantic : Text} (row : (placeholder, semantic) ∈ placeholders) {source : Text}
    {position : Nat} (held : (tokenize source)[position]? = some ⟨.ident, Text.upper semantic⟩) :
    (tokenize (hide source))[position]? = some ⟨.ident, Text.upper placeholder⟩ := by
  rw [tokenize_hide, List.getElem?_map, held, Option.map_some, hiddenToken, Token.rename_ident, get?_hiddenNames row]
  rfl

end Semantic

theorem Header.lineSymbol?_of_semantic {line semantic : Text} (held : (fields line)[1]? = some semantic)
    (filled : semantic ≠ []) : lineSymbol? line = some ⟨Semantic.canonical semantic, .semantic⟩ := by
  unfold lineSymbol?
  match split : fields line with
  | [] =>
    rw [split] at held
    cases held
  | [declaration] =>
    rw [split] at held
    cases held
  | declaration :: second :: others =>
    rw [split] at held
    cases held
    simp only [List.isEmpty_iff, if_neg filled]

namespace Restoration

/-- The last line of a header for a generated name gives a vertex input behind a placeholder. -/
def Hides (header generated placeholder : Text) : Prop :=
  ∃ line semantic, Header.lastLine? header generated = some line ∧ (Header.fields line)[1]? = some semantic ∧
    Text.sameLetters semantic ("$vin." ++ placeholder) = true

section

variable {placeholder semantic : Text} (row : (placeholder, semantic) ∈ Semantic.placeholders)

include row

theorem vertexInput?_placeholder :
    vertexInput? (Semantic.canonical ("$vin." ++ placeholder)) = some semantic := by
  have all : ∀ pair ∈ Semantic.placeholders,
      vertexInput? (Semantic.canonical ("$vin." ++ pair.1)) = some pair.2 := by decide +kernel
  exact all (placeholder, semantic) row

theorem restoredAs?_of_hides {header generated : Text} {symbols : SymbolMap}
    (accepted : Header.symbols header = .ok symbols) (hides : Hides header generated placeholder) :
    restoredAs? symbols .input generated = some semantic := by
  obtain ⟨line, field, last, held, same⟩ := hides
  have filled : field ≠ [] := by
    rintro rfl
    cases same
  rw [restoredAs?, Header.get?_symbols accepted, last, Option.bind_some, Header.lineSymbol?_of_semantic held filled,
    Option.bind_some, Semantic.canonical_of_sameLetters same, vertexInput?_placeholder row]

theorem pieces_of_hides {header generated : Text} {symbols : SymbolMap}
    (accepted : Header.symbols header = .ok symbols) (hides : Hides header generated placeholder) {text : Text}
    (input : generated ∈ declaredNames (.ofText text) .input) {position : Nat}
    (held : (tokenize text)[position]? = some ⟨.ident, generated⟩) :
    (pieces symbols text)[position]? = some semantic := by
  have restored : restoredName symbols (.ofText text) generated = semantic := by
    rw [restoredName, if_pos input, restoredAs?_of_hides row accepted hides]
    rfl
  have plain : ∀ pair ∈ Semantic.placeholders,
      Text.startsWith "vec" pair.2 = false ∧ builtinName pair.2 = pair.2 := by decide
  obtain ⟨untyped, kept⟩ := plain _ row
  have settled : settledName symbols text position generated = semantic := by
    rw [settledName_eq symbols held (by rwa [restored]), restored]
  rw [pieces_ident symbols held, settled, kept]

end

/-- A reserved word of the source becomes its placeholder, and a generated name that stands for the placeholder
is written as the semantic wherever the body has it. -/
theorem semantic_roundTrip {placeholder semantic : Text} (row : (placeholder, semantic) ∈ Semantic.placeholders) :
    (∀ (header generated text : Text) (symbols : SymbolMap) (restored : Restored),
        Header.symbols header = .ok symbols → Hides header generated placeholder →
        generated ∈ declaredNames (.ofText text) .input → restoreBody symbols text = .ok restored →
        restored.body = (pieces symbols text).flatten ∧
          ∀ position : Nat, (tokenize text)[position]? = some ⟨.ident, generated⟩ →
            (pieces symbols text)[position]? = some semantic) ∧
      ∀ (source : Text) (position : Nat), (tokenize source)[position]? = some ⟨.ident, Text.upper semantic⟩ →
        (tokenize (Semantic.hide source))[position]? = some ⟨.ident, Text.upper placeholder⟩ := by
  constructor
  · intro header generated text symbols restored accepted hides input succeeds
    refine ⟨body_eq_pieces succeeds, ?_⟩
    intro position held
    exact pieces_of_hides row accepted hides input held
  · intro source position held
    exact Semantic.getElem?_hide row held

def normalHeader : Text :=
  "//version 1\n//var float4 t : $vin.ATTR9 : _n : 0 : 1\n//var float4 n : $VIN.AtTr8 : $main._n[0] : 1 : 1"

def normalSymbols : SymbolMap := .ofPairs [("_n", ⟨"$vin.attr8", .semantic⟩)]

def normalBody : Text := "attribute vec4 _n;\nv = _n * gl_Vertex;"

def normalRestored : Restored := ⟨["attribute vec4 position;"], "attribute vec4 normal;\nv = normal * position;"⟩

def normalSource : Text := "float4 n : NORMAL;"

theorem semantic_roundTrip_normal :
    Header.symbols normalHeader = .ok normalSymbols ∧ restoreBody normalSymbols normalBody = .ok normalRestored ∧
      (pieces normalSymbols normalBody)[4]? = some "normal".toList ∧
      (pieces normalSymbols normalBody)[11]? = some "normal".toList ∧
      (tokenize (Semantic.hide normalSource))[6]? = some ⟨.ident, "ATTR8"⟩ := by
  have row : ("attr8".toList, "normal".toList) ∈ Semantic.placeholders := by decide
  have accepted : Header.symbols normalHeader = .ok normalSymbols := by decide +kernel
  have hides : Hides normalHeader "_n" "attr8" :=
    ⟨"//var float4 n : $VIN.AtTr8 : $main._n[0] : 1 : 1", "$VIN.AtTr8", by decide +kernel, by decide +kernel, by decide⟩
  have input : "_n".toList ∈ declaredNames (.ofText normalBody) .input := by decide +kernel
  have succeeds : restoreBody normalSymbols normalBody = .ok normalRestored := by decide +kernel
  obtain ⟨returns, leaves⟩ := semantic_roundTrip row
  obtain ⟨_, written⟩ := returns normalHeader "_n" normalBody normalSymbols normalRestored accepted hides input succeeds
  exact ⟨accepted, succeeds, written 4 (by decide +kernel), written 11 (by decide +kernel),
    leaves normalSource 6 (by decide +kernel)⟩

end Restoration

end ShaderPair
