import ShaderPair.Conversion
import ShaderPair.Duration.Printer
import ShaderPair.Host.Tree

/-! Runs of the compiler program. It reads the source on its input and writes code and diagnostics;
a failing exit status is no failure of the run. -/

namespace ShaderPair

inductive ToolFailure where
  | notFound (path : Text)
  | start (path detail : Text)
  | io (detail : Text)
  | timeout (limit : Duration)
  deriving DecidableEq, Repr

namespace ToolFailure

def message : ToolFailure → Text
  | notFound path => path ++ " is not found, use --cgc option to specify its location. " ++
      "You may need to install nvidia cg toolkit."
  | start path detail => "Failed to start " ++ path ++ ": " ++ detail
  | io detail => "I/O error talking to cgc: " ++ detail
  | timeout limit => "cgc did not finish within " ++ limit.text

def error (failure : ToolFailure) : ShaderError := .externalTool failure.message

end ToolFailure

/-- The compiler at a path, with a limit on one run. -/
structure Toolchain where
  host : Host
  path : Text
  limit : Duration

namespace Toolchain

def arguments (call : Call) : List Text := ["-profile", call.profile, "-entry", call.entry]

def finished? (toolchain : Toolchain) (call : Call) : Except ToolFailure Finished :=
  match toolchain.host.launch toolchain.path (arguments call) with
  | .error cause => .error (.start toolchain.path cause.message)
  | .ok running =>
    match running (Text.toUtf8 call.source) with
    | some finished => .ok finished
    | none => .error (.timeout toolchain.limit)

def run (toolchain : Toolchain) (call : Call) : Except ToolFailure Answer :=
  (toolchain.finished? call).map fun finished =>
    ⟨Text.ofUtf8 finished.output, Text.ofUtf8 finished.diagnostics⟩

def compiler (toolchain : Toolchain) : Compiler := fun _ call =>
  match toolchain.run call with
  | .ok answer => .ok answer
  | .error failure => .error failure.error

def events (toolchain : Toolchain) (call : Call) : List Log.Event :=
  ⟨.debug, .process, "Running " ++ toolchain.path ++ " -profile " ++ call.profile ++ " -entry " ++
    call.entry⟩ ::
  match toolchain.finished? call with
  | .error _ => []
  | .ok finished =>
    (if finished.closedEarly then
      [⟨.warn, .process, "cgc closed its input before reading the whole shader"⟩] else []) ++
    (if finished.ending.isSuccess then [] else
      [⟨.warn, .process, "cgc exited with " ++ finished.ending.text ++ " for profile " ++
        call.profile⟩])

end Toolchain

end ShaderPair
