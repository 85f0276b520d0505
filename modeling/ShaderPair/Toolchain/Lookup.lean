import ShaderPair.Toolchain.Invocation

/-! Where the compiler is: at an install location, beside the running program, or bundled in a
checkout around it. -/

namespace ShaderPair.Host

def installPaths : List Text := [
  "/usr/bin/cgc",
  "C:/Program Files/NVIDIA Corporation/Cg/bin/cgc.exe",
  "C:/Program Files (x86)/NVIDIA Corporation/Cg/bin/cgc.exe"]

def bundledPaths : List Text := ["linux/bin/cgc", "linux/bin64/cgc", "mac/bin/cgc", "win/bin/cgc.exe"]

/-- The nearest of five folders above a path that holds the two folders of a checkout. -/
def checkoutRoot? (host : Host) (start : Text) : Option Text :=
  (Path.above 5 start).find? fun folder =>
    host.hasFolder (Path.join folder "o3d") && host.hasFolder (Path.join folder "third_party")

def versionProbe (host : Host) (path : Text) : Except OsError (Option Ending) :=
  (host.launch path ["-v"]).map fun running => (running []).map Finished.ending

/-- Whether a program for this platform stands at the path: asked for its version, the compiler
ends with 0 or 1. -/
def respondsToVersion (host : Host) (path : Text) : Bool :=
  match host.versionProbe path with
  | .ok (some (.code value)) => value ≤ 1
  | _ => false

def installed? (host : Host) : Option Text := installPaths.find? host.hasNode

def besideProgram? (host : Host) : Option Text :=
  host.programFolder.bind fun folder =>
    ([Path.join folder "cgc", Path.join folder "cgc.exe"] : List Text).find? host.hasNode

def bundledCandidates (host : Host) : List Text :=
  let root := (host.programFolder.bind host.checkoutRoot?).getD []
  bundledPaths.map fun path => Path.join (Path.join root "third_party/cg/files") path

def bundled? (host : Host) : Option Text := host.bundledCandidates.find? host.respondsToVersion

def defaultCompiler? (host : Host) : Option Text :=
  host.installed? <|> host.besideProgram? <|> host.bundled?

def probeText (host : Host) (path : Text) : Text :=
  match host.versionProbe path with
  | .ok (some (.code value)) => "Ok(ExitStatus(unix_wait_status(" ++ Text.decimal (256 * value) ++ ")))"
  | .ok _ => "Ok(ExitStatus(unix_wait_status(9)))"
  | .error cause => "Err(" ++ cause.summary ++ ")"

/-- The candidates asked for their version, up to the first that responds. -/
def probed (host : Host) : List Text → List Text
  | [] => []
  | path :: rest => if host.respondsToVersion path then [path] else path :: probed host rest

def bundledEvents (host : Host) : List Log.Event :=
  (host.probed host.bundledCandidates).map (fun path =>
    ⟨.trace, .lookup, "Probing " ++ path ++ ": " ++ host.probeText path⟩) ++
  match host.bundled? with
  | some path => [⟨.debug, .lookup, "Found bundled cgc at " ++ path⟩]
  | none => []

def lookupEvents (host : Host) : List Log.Event :=
  match host.installed?, host.besideProgram? with
  | some path, _ => [⟨.debug, .lookup, "Found cgc at " ++ path⟩]
  | none, some path => [⟨.debug, .lookup, "Found cgc next to the executable at " ++ path⟩]
  | none, none => host.bundledEvents

def checkCompiler (host : Host) (path : Text) : Except ToolFailure Unit :=
  if host.hasNode path then .ok () else .error (.notFound path)

end ShaderPair.Host
