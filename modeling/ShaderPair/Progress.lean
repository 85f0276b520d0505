/-! Work through a list until the first failure, keeping what was done before it, and the two ways in
which one step after another can end. -/

namespace ShaderPair

structure Progress (ε α : Type) where
  done : List α
  failure : Option ε

namespace Progress

variable {ε α β : Type}

/-- Apply `step` to each item in turn and stop at the first one it fails on. -/
def along (step : α → Except ε β) : List α → Progress ε β
  | [] => ⟨[], none⟩
  | item :: rest =>
    match step item with
    | .ok value =>
      let later := along step rest
      ⟨value :: later.done, later.failure⟩
    | .error failure => ⟨[], some failure⟩

def toExcept (progress : Progress ε α) : Except ε (List α) :=
  match progress.failure with
  | none => .ok progress.done
  | some failure => .error failure

theorem along_cons_ok {step : α → Except ε β} {item : α} {value : β} (rest : List α)
    (succeeds : step item = .ok value) :
    along step (item :: rest) = ⟨value :: (along step rest).done, (along step rest).failure⟩ := by
  simp [along, succeeds]

theorem along_cons_error {step : α → Except ε β} {item : α} {failure : ε} (rest : List α)
    (fails : step item = .error failure) : along step (item :: rest) = ⟨[], some failure⟩ := by
  simp [along, fails]

theorem toExcept_along_eq_ok (step : α → Except ε β) (items : List α) (values : List β) :
    (along step items).toExcept = .ok values ↔ items.map step = values.map Except.ok := by
  induction items generalizing values with
  | nil => cases values <;> simp [along, toExcept]
  | cons item rest ih =>
    cases first : step item with
    | error failure => cases values <;> simp [along, toExcept, first]
    | ok value =>
      cases values with
      | nil => cases failed : (along step rest).failure <;> simp [along, toExcept, first, failed]
      | cons head tail =>
        have later := ih tail
        cases failed : (along step rest).failure <;>
          simp_all [along, toExcept]

def fault? : Except ε α → Option ε
  | .ok _ => none
  | .error failure => some failure

theorem fault?_eq_none {outcome : Except ε α} : fault? outcome = none ↔ ∃ value, outcome = .ok value := by
  cases outcome <;> simp [fault?]

theorem fault?_eq_some {outcome : Except ε α} {failure : ε} :
    fault? outcome = some failure ↔ outcome = .error failure := by
  cases outcome <;> simp [fault?]

theorem fault?_map (change : α → β) (outcome : Except ε α) : fault? (outcome.map change) = fault? outcome := by
  cases outcome <;> rfl

/-- The failure is that of the first item that fails. -/
theorem failure_along (step : α → Except ε β) (items : List α) :
    (along step items).failure = items.findSome? fun item => fault? (step item) := by
  induction items with
  | nil => rfl
  | cons item rest ih =>
    cases first : step item with
    | ok value =>
      rw [along_cons_ok rest first, List.findSome?_cons, first]
      exact ih
    | error failure =>
      rw [along_cons_error rest first, List.findSome?_cons, first]
      rfl

theorem fault?_toExcept (progress : Progress ε α) : fault? progress.toExcept = progress.failure := by
  unfold toExcept
  cases progress.failure <;> rfl

end Progress

theorem bind_eq_ok_iff {ε α β : Type} {first : Except ε α} {next : α → Except ε β} {result : β} :
    first >>= next = .ok result ↔ ∃ value, first = .ok value ∧ next value = .ok result := by
  cases first with
  | error cause => exact ⟨nofun, nofun⟩
  | ok value => exact ⟨fun done => ⟨value, rfl, done⟩, fun ⟨_, same, done⟩ => Except.ok.inj same ▸ done⟩

theorem map_eq_ok_iff {ε α β : Type} {outcome : Except ε α} {change : α → β} {result : β} :
    outcome.map change = .ok result ↔ ∃ value, outcome = .ok value ∧ change value = result := by
  cases outcome with
  | error cause => simp [Except.map]
  | ok value => simp [Except.map]

theorem bind_eq_error_iff {ε α β : Type} {first : Except ε α} {next : α → Except ε β} {cause : ε} :
    first >>= next = .error cause ↔ first = .error cause ∨ ∃ value, first = .ok value ∧ next value = .error cause := by
  cases first with
  | error fault =>
    constructor
    · intro failed
      exact .inl (congrArg Except.error (Except.error.inj failed))
    · rintro (⟨⟨⟩⟩ | ⟨_, ⟨⟩, _⟩)
      rfl
  | ok value =>
    constructor
    · intro failed
      exact .inr ⟨value, rfl, failed⟩
    · rintro (⟨⟨⟩⟩ | ⟨_, ⟨⟩, failed⟩)
      exact failed

end ShaderPair
