import ShaderPair.Log.Filter
import ShaderPair.Settings.Layers
import ShaderPair.Toolchain.Invocation

/-! Actions of a run. They see and change the surroundings, note what happens in its order, and may
fail; what was done before a failure stays done. -/

namespace ShaderPair

inductive RunError where
  | configuration (detail : Text)
  | io (detail : Text)
  | conversion (failure : Failure)
  | tool (failure : ToolFailure)
  /-- Writing the result failed: what was tried, and why it failed. -/
  | output (context cause : Text)
  deriving DecidableEq, Repr

namespace RunError

def message : RunError → Text
  | configuration detail => "Configuration Error: " ++ detail
  | io detail => "IO Error: " ++ detail
  | conversion failure => "Translation Error: " ++ failure.message
  | tool failure => failure.message
  | output context _ => context

def chain : RunError → Text
  | output context cause => context ++ ": " ++ cause
  | other => other.message

end RunError

inductive Note where
  | event (event : Log.Event)
  /-- Text for the error stream, shown whatever the log level is. -/
  | complaint (text : Text)
  | print (text : Text)
  | call (call : Call)
  deriving DecidableEq, Repr

structure RunState where
  host : Host
  notes : List Note

abbrev Action := ExceptT RunError (StateM RunState)

namespace Action

variable {α : Type}

def perform (action : Action α) (host : Host) : Except RunError α × RunState :=
  (ExceptT.run action).run ⟨host, []⟩

def note (notes : List Note) : Action Unit :=
  modify fun state => { state with notes := state.notes ++ notes }

def log (events : List Log.Event) : Action Unit := note (events.map .event)

def host : Action Host := return (← get).host

def orError (message : ε → RunError) : Except ε α → Action α
  | .ok value => pure value
  | .error cause => throw (message cause)

def setHost (host : Host) : Action Unit := modify fun state => { state with host := host }

end Action

namespace RunState

def printed (state : RunState) : Text :=
  state.notes.flatMap fun
    | .print text => text
    | _ => []

def calls (state : RunState) : List Call :=
  state.notes.filterMap fun
    | .call call => some call
    | _ => none

def report (state : RunState) (filter : Log.Filter) : Text :=
  state.notes.flatMap fun
    | .event event => if filter.shows event then event.line else []
    | .complaint text => text
    | _ => []

end RunState

end ShaderPair
