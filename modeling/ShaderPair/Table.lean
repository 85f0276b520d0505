import ShaderPair.Text.Basic

/-! Tables from names to values. Each name has at most one value, the one given last. -/

namespace ShaderPair

structure Table (α : Type) where
  entries : List (Text × α)
  deriving DecidableEq, Repr

namespace Table

variable {α : Type}

def empty : Table α := ⟨[]⟩

def get? (table : Table α) (name : Text) : Option α := table.entries.lookup name

def contains (table : Table α) (name : Text) : Bool := (table.get? name).isSome

def insert (table : Table α) (name : Text) (value : α) : Table α :=
  ⟨(name, value) :: table.entries.filter (·.1 != name)⟩

def size (table : Table α) : Nat := table.entries.length

/-- A later pair replaces an earlier one with the same name. -/
def ofPairs (pairs : List (Text × α)) : Table α :=
  pairs.foldl (fun table pair => table.insert pair.1 pair.2) empty

theorem get?_empty (name : Text) : (empty : Table α).get? name = none := rfl

theorem get?_insert (table : Table α) (name other : Text) (value : α) :
    (table.insert name value).get? other = if other = name then some value else table.get? other := by
  unfold insert get?
  by_cases same : other = name
  · simp [same]
  · simp only [List.lookup_cons, beq_eq_false_iff_ne.mpr same, if_neg same]
    induction table.entries with
    | nil => rfl
    | cons entry rest ih =>
      obtain ⟨key, held⟩ := entry
      by_cases kept : key = name
      · have differs : (other == key) = false := beq_eq_false_iff_ne.mpr (kept ▸ same)
        simpa [List.filter_cons, kept, List.lookup_cons, kept ▸ differs] using ih
      · simp [kept, List.lookup_cons, ih]

end Table

end ShaderPair
