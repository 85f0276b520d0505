import ShaderPair.Host.Variables
import ShaderPair.Session.Run

/-! The command line program. It gathers the files a run looks at, runs the converter on them, and
puts its effects into place. The compiler's path may come from a settings file, so a second survey can
see more than the first. It starts no other program: a compiler found here counts as a file that may not
be run. -/

namespace ShaderPair.Session

def settingsPaths (host : Host) : List Text :=
  (List.range (host.working.length + 1)).map fun levels =>
    "/" ++ Text.join "/" (host.working.take (host.working.length - levels) ++ [Settings.fileName])

def compilerPaths (world : World) (options : CommandLine.Options) : List Text :=
  match Settings.load world.host world.environment options with
  | .ok ⟨some path, _⟩ => [path]
  | _ => Host.installPaths ++ world.host.bundledCandidates ++ [fallbackCompiler]

def outputPaths (output : Option Text) : List Text :=
  match output with
  | some path => [(Path.parent? path).getD [], path]
  | none => []

def surveyPaths (world : World) (words : List Text) : List Text :=
  match CommandLine.read world.environment words with
  | .error _ => []
  | .ok options =>
    (match options.settings with
      | some path => [path]
      | none => settingsPaths world.host) ++
      options.input.toList ++ compilerPaths world options ++ outputPaths options.output

def World.withNode (world : World) (path : Text) (node : Node) : World :=
  let place := Place.follow world.host.working path
  let tree := (world.host.tree.makeFolders place.dropLast).put place node
  { world with host := { world.host with tree := tree } }

end ShaderPair.Session

namespace ShaderPair.Program

def observe (path : Text) : IO (Option Node) := do
  let name := if path.isEmpty then "." else String.ofList path
  try
    let contents ← IO.FS.readBinFile name
    return some (.file ⟨contents.toList, .document⟩)
  catch
    | .inappropriateType _ 21 _ => return some .folder
    | _ => return none

def gather (world : World) (words : List Text) : IO World :=
  (Session.surveyPaths world words).foldlM (fun world path => do
    match ← observe path with
    | some node => return Session.World.withNode world path node
    | none => return world) world

def environment : IO (List (Text × Text)) := do
  try
    return Variables.ofBytes (← IO.FS.readBinFile "/proc/self/environ").toList
  catch _ => return []

def workingPlace : IO Place := do
  let folder ← IO.currentDir
  return Place.follow [] folder.toString.toList

def save (before after : Host) (path : Text) : IO Unit := do
  match before.read path, after.read path with
  | .ok old, .ok new => if old != new then IO.FS.writeBinFile (String.ofList path) ⟨new.toArray⟩
  | .error _, .ok new => IO.FS.writeBinFile (String.ofList path) ⟨new.toArray⟩
  | _, .error _ => return

end ShaderPair.Program

open ShaderPair Program in
def main (arguments : List String) : IO UInt32 := do
  let words := arguments.map String.toList
  let standing : World := ⟨⟨.empty, ← workingPlace, none⟩, ← environment, []⟩
  let seen ← gather (← gather standing words) words
  let options := (CommandLine.read seen.environment words).toOption
  let input ← if options.any (·.input.isNone) then (← IO.getStdin).readBinToEnd else pure .empty
  let world : World := { seen with input := input.toList }
  let exit := Session.run world words
  options.bind (·.output) |>.forM (save world.host exit.host)
  IO.print (String.ofList exit.output)
  IO.eprint (String.ofList exit.report)
  return UInt32.ofNat exit.status
