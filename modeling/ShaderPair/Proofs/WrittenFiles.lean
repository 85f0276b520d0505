import ShaderPair.Host.Tree
import ShaderPair.Progress

/-! A file that was written stands where its path leads. The way to it passes through folders and links only,
and a file is put where neither of them stood, so the way is the same in the new tree. Every other place keeps
what stood there. -/

namespace ShaderPair

namespace Tree

variable {tree : Tree} {place start finish : Place}

/-- A regular file stands at the place, or nothing does. -/
def IsFileOrFree (tree : Tree) (place : Place) : Prop :=
  tree.node? place = none ∨ ∃ file, tree.node? place = some (.file file)

theorem node?_put {node : Node} (filled : place ≠ []) (other : Place) :
    (tree.put place node).node? other = if other = place then some node else tree.node? other := by
  unfold node? put
  by_cases same : other = place
  · simp [same, filled]
  · simp [same, List.lookup_cons, beq_eq_false_iff_ne.mpr same]

theorem IsFileOrFree.eq_file {node : Node} (free : tree.IsFileOrFree place) (held : tree.node? place = some node) :
    ∃ file, node = .file file := by
  obtain nothing | ⟨file, same⟩ := free
  · cases held.symm.trans nothing
  · exact ⟨file, Option.some.inj (held.symm.trans same)⟩

theorem IsFileOrFree.ne_nil (free : tree.IsFileOrFree place) : place ≠ [] := by
  rintro rfl
  have root : tree.node? [] = some .folder := rfl
  obtain ⟨file, same⟩ := free.eq_file root
  cases same

theorem folder_of_step {segment : Text} (stepped : tree.step start segment = .ok finish) :
    tree.node? start = some .folder := by
  unfold step at stepped
  split at stepped
  · cases stepped
  · assumption
  · cases stepped

section Put

variable {file : File} (free : tree.IsFileOrFree place)

include free

theorem step_put {segment : Text} (stepped : tree.step start segment = .ok finish) :
    (tree.put place (.file file)).step start segment = .ok finish := by
  have folder := folder_of_step stepped
  have apart : start ≠ place := by
    rintro rfl
    obtain ⟨old, same⟩ := free.eq_file folder
    cases same
  have kept : (tree.put place (.file file)).node? start = tree.node? start := by
    rw [node?_put free.ne_nil, if_neg apart]
  rw [step, kept]
  exact stepped

/-- A way stays the same if the ways on from its links do. -/
theorem walkWith_put {follow followPut : Place → List Text → Except OsError Place}
    (followed : ∀ base segments target, follow base segments = .ok target → followPut base segments = .ok target)
    {segments : List Text} (walked : tree.walkWith follow start segments = .ok finish) :
    (tree.put place (.file file)).walkWith followPut start segments = .ok finish := by
  induction segments generalizing start with
  | nil => exact walked
  | cons segment segments ih =>
    obtain ⟨next, stepped, rest⟩ := bind_eq_ok_iff.mp walked
    refine bind_eq_ok_iff.mpr ⟨next, step_put free stepped, ?_⟩
    rw [node?_put free.ne_nil]
    by_cases here : next = place
    · subst here
      rw [if_pos rfl]
      obtain nothing | ⟨old, held⟩ := free
      · rw [nothing] at rest
        exact ih rest
      · rw [held] at rest
        exact ih rest
    · rw [if_neg here]
      split at rest
      · exact followed _ _ _ rest
      · exact ih rest

theorem walkLinks_put {links : Nat} {segments : List Text}
    (walked : tree.walkLinks links start segments = .ok finish) :
    (tree.put place (.file file)).walkLinks links start segments = .ok finish := by
  induction links generalizing start segments finish with
  | zero => exact walkWith_put free (fun _ _ _ failed => failed) walked
  | succ links ih => exact walkWith_put free (fun _ _ _ followed => ih followed) walked

end Put

theorem node?_store (free : tree.IsFileOrFree place) (contents : Bytes) :
    ∃ file, (tree.store place contents).node? place = some (.file file) ∧
      file.contents = tree.fitting place contents := by
  rw [store, node?_put free.ne_nil, if_pos rfl]
  exact ⟨_, rfl, rfl⟩

theorem node?_store_of_ne (free : tree.IsFileOrFree place) (contents : Bytes) {other : Place}
    (apart : other ≠ place) : (tree.store place contents).node? other = tree.node? other := by
  rw [store, node?_put free.ne_nil, if_neg apart]

theorem target_cases {target : Target} (opened : tree.target place = .ok target) :
    (target = .file place ∧ tree.IsFileOrFree place) ∨
      ∃ device, target = .sink device.sink ∧ tree.node? place = some (.device device) := by
  unfold Tree.target at opened
  split at opened
  · next nothing =>
    obtain ⟨_, _, same⟩ := map_eq_ok_iff.mp opened
    exact .inl ⟨same.symm, .inl nothing⟩
  · cases opened
  · next file held =>
    obtain ⟨_, _, same⟩ := map_eq_ok_iff.mp opened
    exact .inl ⟨same.symm, .inr ⟨file, held⟩⟩
  · next device held =>
    obtain ⟨_, _, same⟩ := map_eq_ok_iff.mp opened
    exact .inr ⟨device, same.symm, held⟩
  · cases opened

end Tree

namespace Host

variable {host : Host} {path : Text} {place : Place} {target : Tree.Target}

/-- What is opened for writing stands where the path leads, and is a file or a device there. -/
theorem create_cases (created : host.create path = .ok target) :
    ∃ place, host.place path = .ok place ∧ ((target = .file place ∧ host.tree.IsFileOrFree place) ∨
      ∃ device, target = .sink device.sink ∧ host.tree.node? place = some (.device device)) := by
  obtain ⟨start, started, created⟩ := bind_eq_ok_iff.mp created
  split at created
  · obtain ⟨_, _, failed⟩ := bind_eq_ok_iff.mp created
    cases failed
  · obtain ⟨place, walked, opened⟩ := bind_eq_ok_iff.mp created
    exact ⟨place, bind_eq_ok_iff.mpr ⟨start, started, walked⟩, Tree.target_cases opened⟩

theorem create_eq_file (created : host.create path = .ok (.file place)) :
    host.place path = .ok place ∧ host.tree.IsFileOrFree place := by
  obtain ⟨found, leads, ⟨same, free⟩ | ⟨device, other, _⟩⟩ := create_cases created
  · cases same
    exact ⟨leads, free⟩
  · cases other

/-- Only nodes are different, and of these only the one where a path leads, which is a file with these contents. -/
structure Stored (before after : Host) (path : Text) (contents : Bytes) : Prop where
  nodes : after = { before with tree := { before.tree with nodes := after.tree.nodes } }
  place : ∃ place file, before.place path = .ok place ∧ after.place path = .ok place ∧
    after.tree.node? place = some (.file file) ∧ file.contents = contents ∧
    ∀ other, other ≠ place → after.tree.node? other = before.tree.node? other

theorem stored_store (created : host.create path = .ok (.file place)) (contents : Bytes) :
    Stored host { host with tree := host.tree.store place contents } path (host.tree.fitting place contents) := by
  obtain ⟨leads, free⟩ := create_eq_file created
  obtain ⟨start, started, walked⟩ := bind_eq_ok_iff.mp leads
  obtain ⟨file, held, holds⟩ := Tree.node?_store free contents
  refine ⟨rfl, place, file, leads, ?_, held, holds, fun other => Tree.node?_store_of_ne free contents⟩
  exact bind_eq_ok_iff.mpr ⟨start, started, Tree.walkLinks_put free walked⟩

end Host

end ShaderPair
