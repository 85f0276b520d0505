import Mathlib.Data.List.Basic
import ShaderPair.Proofs.RunEffects
import ShaderPair.Proofs.WrittenFiles

/-! The result of a run is seen only when every step went well. A run that fails prints nothing, and leaves
every file alone unless the one it was told to write is too small for the result. A run that succeeds prints
the result or puts it into that one file, and the compiler is not called before everything else is there. -/

namespace ShaderPair.Session

open CommandLine (Options)

structure Converts (readers : Readers) (world : World) (options : Options) (toolchain : Toolchain) (source : Text)
    (pair : Pair) : Prop extends Ready readers world options toolchain source where
  converted : (Conversion.convert toolchain.compiler source).outcome = .ok pair

/-- Every step goes well: what the result is asked to be written to can be opened, and takes all of it. -/
structure Succeeds (readers : Readers) (world : World) (options : Options) (toolchain : Toolchain) (source : Text)
    (pair : Pair) : Prop extends Converts readers world options toolchain source pair where
  writable : ∀ path, options.output = some path → ∃ target, world.host.create path = .ok target ∧
    world.host.tree.take target (Text.toUtf8 pair.text) = .ok ()

def Exit.effects (exit : Exit) : Effects := ⟨exit.host, exit.output, exit.calls⟩

/-- A file was opened for the result of a conversion. It holds as much of the result as it can take, and
nothing else is different. -/
def Filled (readers : Readers) (world : World) (options : Options) (after : Host) (place : Place)
    (contents : Bytes) : Prop :=
  ∃ toolchain source pair path, Converts readers world options toolchain source pair ∧
    contents = Text.toUtf8 pair.text ∧ options.output = some path ∧
    world.host.create path = .ok (.file place) ∧
    world.host.Stored after path (world.host.tree.fitting place contents)

section Courses

variable {readers : Readers} {world : World} {options : Options} {toolchain : Toolchain} {source : Text} {pair : Pair}
variable {outcome : Except RunError Unit} {after : Effects}

theorem Course.succeeds {bytes : Bytes} (course : Course readers world options (.ok ()) after)
    (given : inputBytes world options = .ok bytes) (filled : bytes ≠ []) :
    ∃ toolchain pair, Succeeds readers world options toolchain (Text.ofUtf8 bytes) pair := by
  have source_eq {toolchain source} (ready : Ready readers world options toolchain source) :
      source = Text.ofUtf8 bytes := by
    obtain ⟨_, also, _, same⟩ := ready.given
    cases given.symm.trans also
    exact same
  cases course with
  | empty nothing =>
    cases nothing with
    | empty _ also => exact absurd (Except.ok.inj (given.symm.trans also)) filled
  | printed ready converted asked =>
    obtain rfl := source_eq ready
    exact ⟨_, _, ⟨ready, converted⟩, fun path other => by simp [asked] at other⟩
  | written ready converted asked created taken =>
    obtain rfl := source_eq ready
    refine ⟨_, _, ⟨ready, converted⟩, fun other also => ?_⟩
    cases asked.symm.trans also
    exact ⟨_, created, taken⟩

theorem filled_sent {path : Text} {target : Tree.Target} {calls : List Call}
    (converts : Converts readers world options toolchain source pair) (asked : options.output = some path)
    (created : world.host.create path = .ok target) :
    let left := Effects.sent ⟨world.host, [], calls⟩ pair.text target
    left.host ≠ world.host → ∃ place, target = .file place ∧
      Filled readers world options left.host place (Text.toUtf8 pair.text) := by
  intro left changed
  cases target with
  | file place =>
    exact ⟨place, rfl, _, _, pair, path, converts, rfl, asked, created, Host.stored_store created _⟩
  | sink sink => cases sink <;> exact absurd rfl changed

theorem Course.changed (course : Course readers world options outcome after) (changed : after.host ≠ world.host) :
    ∃ place contents, Filled readers world options after.host place contents := by
  cases course with
  | unprepared => exact absurd rfl changed
  | empty => exact absurd rfl changed
  | unconverted => exact absurd rfl changed
  | printed => exact absurd rfl changed
  | uncreated => exact absurd rfl changed
  | unwritten ready converted asked created =>
    obtain ⟨place, _, filled⟩ := filled_sent ⟨ready, converted⟩ asked created changed
    exact ⟨place, _, filled⟩
  | written ready converted asked created =>
    obtain ⟨place, _, filled⟩ := filled_sent ⟨ready, converted⟩ asked created changed
    exact ⟨place, _, filled⟩

/-- A run that fails prints nothing, and has changed something only where the result did not fit. -/
theorem Course.failed {cause : RunError} (course : Course readers world options (.error cause) after) :
    after.printed = [] ∧ (after.host ≠ world.host → ∃ place contents,
      Filled readers world options after.host place contents ∧
        world.host.tree.fitting place contents ≠ contents) := by
  cases course with
  | unprepared => exact ⟨rfl, fun changed => absurd rfl changed⟩
  | unconverted => exact ⟨rfl, fun changed => absurd rfl changed⟩
  | uncreated => exact ⟨rfl, fun changed => absurd rfl changed⟩
  | @unwritten _ _ _ _ target _ ready converted asked created failed =>
    constructor
    · rcases target with place | (_ | _ | _ | _)
      case sink.standardOutput => cases failed
      all_goals rfl
    · intro changed
      obtain ⟨place, rfl, filled⟩ := filled_sent ⟨ready, converted⟩ asked created changed
      refine ⟨place, _, filled, fun whole => ?_⟩
      rw [Tree.take, if_pos whole] at failed
      cases failed

theorem Course.called (course : Course readers world options outcome after) (called : after.calls ≠ []) :
    ∃ toolchain source, Ready readers world options toolchain source := by
  cases course with
  | unprepared => exact absurd rfl called
  | empty => exact absurd rfl called
  | unconverted ready => exact ⟨_, _, ready⟩
  | printed ready => exact ⟨_, _, ready⟩
  | uncreated ready => exact ⟨_, _, ready⟩
  | unwritten ready => exact ⟨_, _, ready⟩
  | written ready => exact ⟨_, _, ready⟩

end Courses

end ShaderPair.Session
