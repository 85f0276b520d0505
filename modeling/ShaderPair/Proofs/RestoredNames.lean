import ShaderPair.Proofs.Tables
import ShaderPair.Restoration

/-! The names a body gets back. What a declared name becomes depends only on the name, its qualifier
and the symbols, and a name declared both ways is restored as a vertex input. The main statement says
that a body can be restored exactly when every declared name has something to become and the steps
after the renaming succeed. -/

namespace ShaderPair

def Token.mapName (change : Text → Text) (token : Token) : Token :=
  if token.kind = .ident then ⟨.ident, change token.text⟩ else token

namespace Restoration

/-- What a declared name becomes, if its symbol allows it. -/
def restoredAs? (symbols : SymbolMap) : Qualifier → Text → Option Text
  | .uniform, generated => (symbols.get? generated).map Symbol.name
  | .input, generated => (symbols.get? generated).bind fun symbol => vertexInput? symbol.name

theorem restoreName_eq_ok {symbols : SymbolMap} {qualifier : Qualifier} {declaration : Declaration}
    {restored : RestoredName} :
    restoreName symbols (qualifier, declaration) = .ok restored ↔
      ∃ name, restoredAs? symbols qualifier declaration.name = some name ∧
        restored = ⟨qualifier, declaration.name, name⟩ := by
  unfold restoreName SymbolMap.resolve
  cases held : symbols.get? declaration.name with
  | none => cases qualifier <;> simp [restoredAs?, held]
  | some symbol =>
    cases qualifier with
    | uniform => simp [restoredAs?, held, eq_comm]
    | input =>
      cases hidden : vertexInput? symbol.name with
      | none => simp [restoredAs?, held, hidden]
      | some semantic => simp [restoredAs?, held, hidden, eq_comm]

def declaredNames (body : Body) (qualifier : Qualifier) : List Text :=
  (body.declarations qualifier.word).map Declaration.name

def Restorable (symbols : SymbolMap) (body : Body) : Prop :=
  ∀ qualifier, ∀ name ∈ declaredNames body qualifier, (restoredAs? symbols qualifier name).isSome

/-- The name that an identifier of the body becomes. Vertex inputs go before uniforms, and an
identifier that is not declared keeps its name. -/
def restoredName (symbols : SymbolMap) (body : Body) (name : Text) : Text :=
  if name ∈ declaredNames body .input then (restoredAs? symbols .input name).getD name
  else if name ∈ declaredNames body .uniform then (restoredAs? symbols .uniform name).getD name
  else name

def restoredTokens (symbols : SymbolMap) (body : Body) : List Token :=
  body.tokens.map (Token.mapName (restoredName symbols body))

def restoredList (symbols : SymbolMap) (body : Body) : List RestoredName :=
  (declared body).map fun item =>
    ⟨item.1, item.2.name, (restoredAs? symbols item.1 item.2.name).getD item.2.name⟩

theorem mem_declared {body : Body} {qualifier : Qualifier} {declaration : Declaration} :
    (qualifier, declaration) ∈ declared body ↔ declaration ∈ body.declarations qualifier.word := by
  cases qualifier <;> simp [declared]

theorem restorable_iff (symbols : SymbolMap) (body : Body) :
    Restorable symbols body ↔
      ∀ item ∈ declared body, (restoredAs? symbols item.1 item.2.name).isSome := by
  constructor
  · rintro restorable ⟨qualifier, declaration⟩ member
    exact restorable qualifier declaration.name (List.mem_map_of_mem (mem_declared.mp member))
  · rintro all qualifier name member
    obtain ⟨declaration, among, rfl⟩ := List.mem_map.mp member
    exact all (qualifier, declaration) (mem_declared.mpr among)

theorem restoreNames_eq_ok {symbols : SymbolMap} {body : Body} {names : List RestoredName} :
    (restoreNames symbols body).toExcept = .ok names ↔
      Restorable symbols body ∧ names = restoredList symbols body := by
  rw [restoreNames, Progress.toExcept_along_eq_ok, restorable_iff, restoredList]
  induction declared body generalizing names with
  | nil => cases names <;> simp
  | cons first rest ih =>
    cases names with
    | nil => simp
    | cons name names =>
      rw [List.map_cons, List.map_cons, List.cons.injEq, ih, restoreName_eq_ok, List.forall_mem_cons,
        List.map_cons, List.cons.injEq]
      constructor
      · rintro ⟨⟨found, held, rfl⟩, all, rfl⟩
        exact ⟨⟨Option.isSome_of_eq_some held, all⟩, by rw [held, Option.getD_some], rfl⟩
      · rintro ⟨⟨some, all⟩, rfl, rfl⟩
        obtain ⟨found, held⟩ := Option.isSome_iff_exists.mp some
        exact ⟨⟨found, held, by rw [held, Option.getD_some]⟩, all, rfl⟩

theorem get?_nameTable (symbols : SymbolMap) (body : Body) (name : Text) :
    (nameTable (restoredList symbols body)).get? name =
      if name ∈ declaredNames body .input then some ((restoredAs? symbols .input name).getD name)
      else if name ∈ declaredNames body .uniform then some ((restoredAs? symbols .uniform name).getD name)
      else none := by
  have pairs : (restoredList symbols body).map (fun restored => (restored.generated, restored.name)) =
      (declaredNames body .uniform).map (fun key => (key, (restoredAs? symbols .uniform key).getD key)) ++
        (declaredNames body .input).map (fun key => (key, (restoredAs? symbols .input key).getD key)) := by
    simp [restoredList, declared, declaredNames, Function.comp_def]
  rw [nameTable, pairs, Table.get?_ofPairs_append, Table.get?_ofPairs_map, Table.get?_ofPairs_map]
  split <;> rfl

theorem withNames_restoredList (symbols : SymbolMap) (body : Body) :
    withNames (restoredList symbols body) body = ⟨restoredTokens symbols body⟩ := by
  unfold withNames Body.rename restoredTokens
  congr 1
  apply List.map_congr_left
  rintro ⟨kind, text⟩ _
  unfold Token.rename Token.mapName
  rw [get?_nameTable]
  cases kind with
  | ident =>
    simp only [if_true, restoredName]
    by_cases input : text ∈ declaredNames body .input
    · simp only [if_pos input]
    · by_cases uniform : text ∈ declaredNames body .uniform
      · simp only [if_neg input, if_pos uniform]
      · simp only [if_neg input, if_neg uniform]
  | number | space | newline | punct => rfl

theorem restoreBody_eq_ok {symbols : SymbolMap} {text : Text} {restored : Restored} :
    restoreBody symbols text = .ok restored ↔
      Restorable symbols (.ofText text) ∧
        finishBody ⟨restoredTokens symbols (.ofText text)⟩ = .ok restored := by
  unfold restoreBody
  cases outcome : (restoreNames symbols (.ofText text)).toExcept with
  | ok names =>
    obtain ⟨restorable, rfl⟩ := restoreNames_eq_ok.mp outcome
    simp [restorable, withNames_restoredList]
  | error cause =>
    have stuck : ¬Restorable symbols (.ofText text) := by
      intro restorable
      have done := restoreNames_eq_ok.mpr ⟨restorable, rfl⟩
      rw [outcome] at done
      cases done
    simp [stuck]

end Restoration

end ShaderPair
