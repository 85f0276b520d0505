import ShaderPair.Session.Run

/-! What a run leaves behind: the surroundings, the text it prints and the calls of the compiler. Log
events and complaints are no part of this, so that most steps of a run leave nothing. The steps before
the conversion are a preparation, which only looks; the ways a whole run can go are listed from there. -/

namespace ShaderPair

structure Effects where
  host : Host
  printed : Text
  calls : List Call

def RunState.effects (state : RunState) : Effects := ⟨state.host, state.printed, state.calls⟩

def Effects.sent (before : Effects) (text : Text) : Tree.Target → Effects
  | .file place =>
    { before with host := { before.host with tree := before.host.tree.store place (Text.toUtf8 text) } }
  | .sink .standardOutput => { before with printed := before.printed ++ text }
  | .sink _ => before

namespace Action

variable {α β ε : Type} {before middle after : Effects}

/-- From every state with the effects before, the action has this outcome and these effects after. -/
def Yields (action : Action α) (before : Effects) (outcome : Except RunError α) (after : Effects) : Prop :=
  ∀ state : RunState, state.effects = before →
    ∃ final, (ExceptT.run action).run state = (outcome, final) ∧ final.effects = after

theorem Yields.bind {action : Action α} {value : α} {next : α → Action β} {outcome : Except RunError β}
    (first : Yields action before (.ok value) middle) (rest : Yields (next value) middle outcome after) :
    Yields (action >>= next) before outcome after := by
  intro state same
  obtain ⟨reached, ran, left⟩ := first state same
  rw [ExceptT.run_bind, StateT.run_bind, ran]
  exact rest reached left

theorem Yields.perform {action : Action α} {host : Host} {outcome : Except RunError α}
    (yields : Yields action ⟨host, [], []⟩ outcome after) :
    ∃ final, action.perform host = (outcome, final) ∧ final.effects = after :=
  yields ⟨host, []⟩ rfl

end Action

namespace Session

open CommandLine (Options)
open ShaderPair.Action

def inputBytes (world : World) (options : Options) : Except OsError Bytes :=
  match options.input with
  | none => .ok world.input
  | some path => world.host.read path

theorem readInput_eq (world : World) (options : Options) :
    readInput world.host world.input options.input = (inputBytes world options).map inputText := by
  unfold readInput inputBytes
  cases options.input <;> rfl

/-- The toolchain of the settings, with a compiler that exists and a time limit. -/
structure Equipped (readers : Readers) (world : World) (options : Options) (toolchain : Toolchain) : Prop where
  settled : ∃ settings, Settings.load world.host world.environment options readers.formats = .ok settings ∧
    settings.limit = .ok toolchain.limit ∧ toolchain.path = compilerPath world.host settings
  present : world.host.hasNode toolchain.path = true
  surrounded : toolchain.host = world.host

/-- All that a conversion needs: the toolchain, and input that is not empty. -/
structure Ready (readers : Readers) (world : World) (options : Options) (toolchain : Toolchain) (source : Text) : Prop
    extends Equipped readers world options toolchain where
  given : ∃ bytes, inputBytes world options = .ok bytes ∧ bytes ≠ [] ∧ source = Text.ofUtf8 bytes

inductive Preparation (readers : Readers) (world : World) (options : Options) :
    Except RunError (Option (Toolchain × Text)) → Prop where
  | unsettled {fault : Settings.Fault}
      (failed : Settings.load world.host world.environment options readers.formats = .error fault) :
      Preparation readers world options (.error (configuration fault))
  | unlimited {settings : Settings} {fault : Settings.Fault}
      (loaded : Settings.load world.host world.environment options readers.formats = .ok settings)
      (failed : settings.limit = .error fault) :
      Preparation readers world options (.error (configuration fault))
  | missing {settings : Settings}
      (loaded : Settings.load world.host world.environment options readers.formats = .ok settings)
      (absent : world.host.hasNode (compilerPath world.host settings) = false) :
      Preparation readers world options (.error (.tool (.notFound (compilerPath world.host settings))))
  | unread {toolchain : Toolchain} {cause : OsError} (equipped : Equipped readers world options toolchain)
      (failed : inputBytes world options = .error cause) :
      Preparation readers world options (.error (ioError cause))
  | empty {toolchain : Toolchain} (equipped : Equipped readers world options toolchain)
      (nothing : inputBytes world options = .ok []) :
      Preparation readers world options (.ok none)
  | ready {toolchain : Toolchain} {source : Text} (ready : Ready readers world options toolchain source) :
      Preparation readers world options (.ok (some (toolchain, source)))

def untouched (world : World) : Effects := ⟨world.host, [], []⟩

section Steps

variable {readers : Readers} {world : World} {options : Options} {settings : Settings} {before : Effects}

section Targets

variable {path : Text} {pair : Pair} {target : Tree.Target} {cause : OsError}

end Targets

end Steps

/-- The ways a run can go, with what each leaves behind. -/
inductive Course (readers : Readers) (world : World) (options : Options) : Except RunError Unit → Effects → Prop where
  | unprepared {cause : RunError} (stopped : Preparation readers world options (.error cause)) :
      Course readers world options (.error cause) (untouched world)
  | empty (nothing : Preparation readers world options (.ok none)) :
      Course readers world options (.ok ()) ⟨world.host, readers.help world.environment, []⟩
  | unconverted {toolchain : Toolchain} {source : Text} {failure : Failure}
      (ready : Ready readers world options toolchain source)
      (failed : (Conversion.convert toolchain.compiler source).outcome = .error failure) :
      Course readers world options (.error (.conversion failure))
        ⟨world.host, [], (Conversion.convert toolchain.compiler source).calls⟩
  | printed {toolchain : Toolchain} {source : Text} {pair : Pair}
      (ready : Ready readers world options toolchain source)
      (converted : (Conversion.convert toolchain.compiler source).outcome = .ok pair)
      (asked : options.output = none) :
      Course readers world options (.ok ())
        ⟨world.host, pair.text, (Conversion.convert toolchain.compiler source).calls⟩
  | uncreated {toolchain : Toolchain} {source path : Text} {pair : Pair} {cause : OsError}
      (ready : Ready readers world options toolchain source)
      (converted : (Conversion.convert toolchain.compiler source).outcome = .ok pair)
      (asked : options.output = some path)
      (failed : world.host.create path = .error cause) :
      Course readers world options (.error (creationError path cause))
        ⟨world.host, [], (Conversion.convert toolchain.compiler source).calls⟩
  | unwritten {toolchain : Toolchain} {source path : Text} {pair : Pair} {target : Tree.Target} {cause : OsError}
      (ready : Ready readers world options toolchain source)
      (converted : (Conversion.convert toolchain.compiler source).outcome = .ok pair)
      (asked : options.output = some path) (created : world.host.create path = .ok target)
      (failed : world.host.tree.take target (Text.toUtf8 pair.text) = .error cause) :
      Course readers world options (.error (writingError path (Text.toUtf8 pair.text) cause))
        (Effects.sent ⟨world.host, [], (Conversion.convert toolchain.compiler source).calls⟩ pair.text target)
  | written {toolchain : Toolchain} {source path : Text} {pair : Pair} {target : Tree.Target}
      (ready : Ready readers world options toolchain source)
      (converted : (Conversion.convert toolchain.compiler source).outcome = .ok pair)
      (asked : options.output = some path) (created : world.host.create path = .ok target)
      (taken : world.host.tree.take target (Text.toUtf8 pair.text) = .ok ()) :
      Course readers world options (.ok ())
        (Effects.sent ⟨world.host, [], (Conversion.convert toolchain.compiler source).calls⟩ pair.text target)

end Session

end ShaderPair
