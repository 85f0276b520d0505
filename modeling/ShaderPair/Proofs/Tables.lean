import ShaderPair.Table

/-! Tables made from pairs, said by what they give for a name: the value of the last pair with that
name, if there is one. -/

namespace ShaderPair.Table

variable {α : Type}

theorem get?_foldl_insert (table : Table α) (pairs : List (Text × α)) (name : Text) :
    (pairs.foldl (fun table pair => table.insert pair.1 pair.2) table).get? name =
      ((ofPairs pairs).get? name).or (table.get? name) := by
  induction pairs generalizing table with
  | nil => rfl
  | cons pair rest ih =>
    have whole : (ofPairs (pair :: rest)).get? name =
        ((ofPairs rest).get? name).or ((empty.insert pair.1 pair.2).get? name) := ih (empty.insert pair.1 pair.2)
    rw [List.foldl_cons, ih, whole, get?_insert, get?_insert, get?_empty]
    split
    · rw [Option.or_assoc, Option.some_or]
    · rw [Option.or_none]

/-- Later pairs are looked at first. -/
theorem get?_ofPairs_append (earlier later : List (Text × α)) (name : Text) :
    (ofPairs (earlier ++ later)).get? name =
      ((ofPairs later).get? name).or ((ofPairs earlier).get? name) := by
  rw [ofPairs, List.foldl_append, get?_foldl_insert]
  rfl

theorem get?_single (pair : Text × α) (name : Text) :
    (ofPairs [pair]).get? name = if name = pair.1 then some pair.2 else none := by
  rw [ofPairs, List.foldl_cons, List.foldl_nil, get?_insert, get?_empty]

theorem get?_ofPairs_cons (pair : Text × α) (rest : List (Text × α)) (name : Text) :
    (ofPairs (pair :: rest)).get? name =
      ((ofPairs rest).get? name).or (if name = pair.1 then some pair.2 else none) := by
  rw [← List.singleton_append, get?_ofPairs_append, get?_single]

theorem get?_ofPairs_map (names : List Text) (value : Text → α) (name : Text) :
    (ofPairs (names.map fun key => (key, value key))).get? name =
      if name ∈ names then some (value name) else none := by
  induction names with
  | nil => rfl
  | cons first rest ih =>
    rw [List.map_cons, get?_ofPairs_cons, ih]
    by_cases later : name ∈ rest
    · simp [later]
    · by_cases same : name = first
      · subst same
        simp [later]
      · simp [later, same]

theorem get?_ofPairs_eq_none {pairs : List (Text × α)} {name : Text} (absent : name ∉ pairs.map Prod.fst) :
    (ofPairs pairs).get? name = none := by
  induction pairs with
  | nil => rfl
  | cons pair rest ih =>
    simp only [List.map_cons, List.mem_cons, not_or] at absent
    rw [get?_ofPairs_cons, ih absent.2, if_neg absent.1, Option.none_or]

theorem mem_of_get?_ofPairs {pairs : List (Text × α)} {name : Text} {value : α}
    (held : (ofPairs pairs).get? name = some value) : (name, value) ∈ pairs := by
  induction pairs with
  | nil => cases held
  | cons pair rest ih =>
    rw [get?_ofPairs_cons] at held
    rcases Option.or_eq_some_iff.mp held with later | ⟨_, first⟩
    · exact List.mem_cons_of_mem _ (ih later)
    · split at first
      · next same =>
        cases first
        subst same
        exact List.mem_cons_self
      · cases first

/-! The names a table holds, each once. -/

def names (table : Table α) : List Text := table.entries.map Prod.fst

theorem names_insert (table : Table α) (name : Text) (value : α) :
    (table.insert name value).names = name :: table.names.filter (· != name) := by
  rw [names, insert, List.map_cons, names, List.filter_map]
  rfl

theorem nodup_names_insert {table : Table α} (once : table.names.Nodup) (name : Text) (value : α) :
    (table.insert name value).names.Nodup := by
  rw [names_insert, List.nodup_cons]
  exact ⟨by simp, once.filter _⟩

theorem mem_names_insert (table : Table α) (name other : Text) (value : α) :
    other ∈ (table.insert name value).names ↔ other = name ∨ other ∈ table.names := by
  rw [names_insert, List.mem_cons, List.mem_filter]
  by_cases same : other = name <;> simp [same]

theorem names_foldl_insert {table : Table α} (once : table.names.Nodup) (pairs : List (Text × α)) :
    (pairs.foldl (fun table pair => table.insert pair.1 pair.2) table).names.Nodup ∧
      ∀ name, name ∈ (pairs.foldl (fun table pair => table.insert pair.1 pair.2) table).names ↔
        name ∈ table.names ∨ name ∈ pairs.map Prod.fst := by
  induction pairs generalizing table with
  | nil => exact ⟨once, by simp⟩
  | cons pair rest ih =>
    obtain ⟨distinct, held⟩ := ih (nodup_names_insert once pair.1 pair.2)
    refine ⟨distinct, ?_⟩
    intro name
    rw [List.foldl_cons, held, mem_names_insert, List.map_cons, List.mem_cons, @or_comm (name = pair.1),
      or_assoc]

theorem nodup_names_ofPairs (pairs : List (Text × α)) : (ofPairs pairs).names.Nodup :=
  (@names_foldl_insert α empty List.nodup_nil pairs).1

theorem mem_names_ofPairs {pairs : List (Text × α)} {name : Text} :
    name ∈ (ofPairs pairs).names ↔ name ∈ pairs.map Prod.fst := by
  have held := (@names_foldl_insert α empty List.nodup_nil pairs).2 name
  have unheld : name ∉ (empty : Table α).names := List.not_mem_nil
  exact held.trans (or_iff_right unheld)

theorem contains_ofPairs {pairs : List (Text × α)} {name : Text} :
    (ofPairs pairs).contains name = true ↔ name ∈ pairs.map Prod.fst := by
  rw [← mem_names_ofPairs, contains, get?, List.lookup_isSome_iff, names, List.mem_map]
  simp only [beq_iff_eq, @eq_comm _ name]

end ShaderPair.Table
