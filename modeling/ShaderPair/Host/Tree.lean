import ShaderPair.Host.Path
import ShaderPair.Text.Utf8

/-! The surroundings of a run: a tree of folders, files, programs, devices and links, and a working
folder. Reading, starting and creating go by a path, and fail the way an operating system does. What it
refuses, and which programs are found by a bare name, is part of the tree. -/

namespace ShaderPair

inductive OsError where
  | notFound
  | execFormat
  | denied
  | notFolder
  | isFolder
  | nameTooLong
  | tooManyLinks
  | noSpace
  | zeroInPath
  | zeroInCommand
  /-- Any other error, with its number, its phrase and its class. -/
  | other (code : Nat) (phrase kind : Text)
  deriving DecidableEq, Repr

namespace OsError

def code? : OsError → Option Nat
  | notFound => some 2
  | execFormat => some 8
  | denied => some 13
  | notFolder => some 20
  | isFolder => some 21
  | nameTooLong => some 36
  | tooManyLinks => some 40
  | noSpace => some 28
  | other code _ _ => some code
  | zeroInPath | zeroInCommand => none

def phrase : OsError → Text
  | notFound => "No such file or directory"
  | execFormat => "Exec format error"
  | denied => "Permission denied"
  | notFolder => "Not a directory"
  | isFolder => "Is a directory"
  | nameTooLong => "File name too long"
  | tooManyLinks => "Too many levels of symbolic links"
  | noSpace => "No space left on device"
  | other _ phrase _ => phrase
  | zeroInPath => "file name contained an unexpected NUL byte"
  | zeroInCommand => "nul byte found in provided data"

def message (cause : OsError) : Text :=
  match cause.code? with
  | some code => cause.phrase ++ " (os error " ++ Text.decimal code ++ ")"
  | none => cause.phrase

def kind : OsError → Text
  | notFound => "NotFound"
  | execFormat => "Uncategorized"
  | denied => "PermissionDenied"
  | notFolder => "NotADirectory"
  | isFolder => "IsADirectory"
  | nameTooLong => "InvalidFilename"
  | tooManyLinks => "FilesystemLoop"
  | noSpace => "StorageFull"
  | other _ _ kind => kind
  | zeroInPath | zeroInCommand => "InvalidInput"

def summary (cause : OsError) : Text :=
  let details := "kind: " ++ cause.kind ++ ", message: \"" ++ cause.phrase ++ "\" \x7d"
  match cause.code? with
  | some code => "Os \x7b code: " ++ Text.decimal code ++ ", " ++ details
  | none => "Error \x7b " ++ details

end OsError

inductive Ending where
  | code (value : Nat)
  | signal
  deriving DecidableEq, Repr

def Ending.isSuccess (ending : Ending) : Bool := ending == .code 0

def Ending.text : Ending → Text
  | code value => "exit status: " ++ Text.decimal value
  | signal => "signal: 9 (SIGKILL)"

structure Finished where
  ending : Ending
  output : Bytes
  diagnostics : Bytes
  /-- Its input was closed before all of it was taken. -/
  closedEarly : Bool
  deriving DecidableEq, Repr

/-- A program answers its arguments and its input, unless it never ends. -/
abbrev Program := List Text → Bytes → Option Finished

inductive Access where
  | document
  | program (behaviour : Program)
  /-- Marked as a program without being one. -/
  | garbage

/-- A program whose contents are replaced is none any more, but keeps its mark. -/
def Access.rewritten : Access → Access
  | document => document
  | program _ | garbage => garbage

structure File where
  contents : Bytes
  access : Access

/-- Where what is written to a device goes, if it can be written. -/
inductive Sink where
  | elsewhere
  | standardOutput
  | standardError
  | failing (cause : OsError)
  deriving DecidableEq, Repr

structure Device where
  contents : Except OsError Bytes
  sink : Sink

inductive Node where
  | folder
  | file (file : File)
  | device (device : Device)
  | link (target : Text)

def Node.contents : Node → Except OsError Bytes
  | folder => .error .isFolder
  | file held => .ok held.contents
  | device held => held.contents
  | link _ => .error .tooManyLinks

/-- The names from the root down to a place. -/
abbrev Place := List Text

def Place.next (place : Place) (segment : Text) : Place :=
  if Path.isIdle segment then place
  else if segment == Path.upward then place.dropLast
  else place ++ [segment]

def Place.follow (place : Place) (path : Text) : Place :=
  (Path.segments path).foldl Place.next (if Path.isAbsolute path then [] else place)

inductive Request where
  | enter
  | read
  /-- Changing a file or a device, or making a file in a folder. -/
  | write
  deriving DecidableEq, Repr

structure Tree where
  nodes : List (Place × Node)
  /-- Requests that fail, and why. -/
  refusals : List ((Place × Request) × OsError)
  /-- How many bytes a file can have at most, where there is a limit. -/
  rooms : List (Place × Nat)
  /-- What is found for a bare name in the folders of installed programs. -/
  installed : Text → Except OsError Program

namespace Tree

def nameLimit : Nat := 255

/-- Without installed programs, these folders hold nothing but themselves and the folders above. -/
def noneInstalled (name : Text) : Except OsError Program :=
  if name == ['.'] || name == Path.upward then .error .denied
  else if (Text.toUtf8 name).length > nameLimit then .error .nameTooLong
  else .error .notFound

def empty : Tree := ⟨[], [], [], noneInstalled⟩

/-- What stands at a place; the root is always a folder. -/
def node? (tree : Tree) (place : Place) : Option Node :=
  if place.isEmpty then some .folder else tree.nodes.lookup place

def put (tree : Tree) (place : Place) (node : Node) : Tree :=
  { tree with nodes := (place, node) :: tree.nodes }

def makeFolders (tree : Tree) (place : Place) : Tree :=
  (List.range place.length).foldl (fun tree length =>
    let folder := place.take (length + 1)
    if (tree.node? folder).isSome then tree else tree.put folder .folder) tree

def makeFoldersAlong (tree : Tree) (place : Place) (segments : List Text) : Tree :=
  (List.range segments.length).foldl (fun tree count =>
    tree.makeFolders ((segments.take (count + 1)).foldl Place.next place)) tree

def allow (tree : Tree) (place : Place) (request : Request) : Except OsError Unit :=
  match tree.refusals.lookup (place, request) with
  | some cause => .error cause
  | none => .ok ()

def step (tree : Tree) (place : Place) (segment : Text) : Except OsError Place :=
  match tree.node? place with
  | none => .error .notFound
  | some .folder =>
    if segment.isEmpty then .ok place
    else do
      tree.allow place .enter
      if segment == ['.'] then .ok place
      else if segment == Path.upward then .ok place.dropLast
      else if (Text.toUtf8 segment).length > nameLimit then .error .nameTooLong
      else .ok (place ++ [segment])
  | some _ => .error .notFolder

/-- Follow segments from a place; where they come to a link, `follow` takes its target and the rest. -/
def walkWith (tree : Tree) (follow : Place → List Text → Except OsError Place) (place : Place) :
    List Text → Except OsError Place
  | [] => .ok place
  | segment :: rest => do
    let next ← tree.step place segment
    match tree.node? next with
    | some (.link target) =>
      follow (if Path.isAbsolute target then [] else next.dropLast) (Path.segments target ++ rest)
    | _ => walkWith tree follow next rest

def walkLinks (tree : Tree) : Nat → Place → List Text → Except OsError Place
  | 0 => tree.walkWith fun _ _ => .error .tooManyLinks
  | links + 1 => tree.walkWith (tree.walkLinks links)

def linkLimit : Nat := 40

/-- Follow the segments of a path from a place. Only folders can be passed through. -/
def walk (tree : Tree) (place : Place) (segments : List Text) : Except OsError Place :=
  tree.walkLinks linkLimit place segments

def readAt (tree : Tree) (place : Place) : Except OsError Bytes :=
  match tree.node? place with
  | none => .error .notFound
  | some node => (tree.allow place .read).bind fun _ => node.contents

inductive Target where
  | file (place : Place)
  | sink (sink : Sink)
  deriving DecidableEq, Repr

/-- Open a place for writing: a file is emptied or made there, a device is left as it is. -/
def target (tree : Tree) (place : Place) : Except OsError Target :=
  match tree.node? place with
  | none => (tree.allow place.dropLast .write).map fun _ => .file place
  | some .folder => .error .isFolder
  | some (.file _) => (tree.allow place .write).map fun _ => .file place
  | some (.device device) => (tree.allow place .write).map fun _ => .sink device.sink
  | some (.link _) => .error .tooManyLinks

/-- The part of some contents that a file can take. -/
def fitting (tree : Tree) (place : Place) (contents : Bytes) : Bytes :=
  match tree.rooms.lookup place with
  | some room => contents.take room
  | none => contents

/-- The tree with new contents at a place, as far as they fit. -/
def store (tree : Tree) (place : Place) (contents : Bytes) : Tree :=
  let access := match tree.node? place with
    | some (.file old) => old.access.rewritten
    | _ => .document
  tree.put place (.file ⟨tree.fitting place contents, access⟩)

/-- Whether all of the contents can be written. -/
def take (tree : Tree) (target : Target) (contents : Bytes) : Except OsError Unit :=
  match target with
  | .file place => if tree.fitting place contents = contents then .ok () else .error .noSpace
  | .sink (.failing cause) => .error cause
  | .sink _ => .ok ()

end Tree

/-- A tree seen from a working folder, with the folder of the running program if it is known. -/
structure Host where
  tree : Tree
  working : Place
  programFolder : Option Text

namespace Host

def pathLimit : Nat := 4095

def start (host : Host) (path : Text) : Except OsError Place :=
  if Text.hasZero path then .error .zeroInPath
  else if path.isEmpty then .error .notFound
  else if (Text.toUtf8 path).length > pathLimit then .error .nameTooLong
  else .ok (if Path.isAbsolute path then [] else host.working)

def place (host : Host) (path : Text) : Except OsError Place := do
  host.tree.walk (← host.start path) (Path.segments path)

def node (host : Host) (path : Text) : Except OsError Node :=
  match host.place path with
  | .error cause => .error cause
  | .ok place =>
    match host.tree.node? place with
    | some node => .ok node
    | none => .error .notFound

def hasNode (host : Host) (path : Text) : Bool := (host.node path).isOk

def hasFolder (host : Host) (path : Text) : Bool :=
  match host.node path with
  | .ok .folder => true
  | _ => false

def read (host : Host) (path : Text) : Except OsError Bytes := do host.tree.readAt (← host.place path)

/-- The program at a path. A bare name is looked for among installed programs. -/
def program (host : Host) (path : Text) : Except OsError Program :=
  if !path.any (· == '/') then host.tree.installed path
  else match host.node path with
    | .error cause => .error cause
    | .ok (.file ⟨_, .program behaviour⟩) => .ok behaviour
    | .ok (.file ⟨_, .garbage⟩) => .error .execFormat
    | .ok _ => .error .denied

def launch (host : Host) (path : Text) (arguments : List Text) :
    Except OsError (Bytes → Option Finished) :=
  if (path :: arguments).any Text.hasZero then .error .zeroInCommand
  else (host.program path).map fun program => program arguments

/-- Create or open what a path leads to for writing. A path whose last name is a dot or is followed by a
slash means a folder. -/
def create (host : Host) (path : Text) : Except OsError Tree.Target := do
  let start ← host.start path
  if Path.meansFolder path then
    let _ ← host.tree.walk start ((Path.withoutFinalSlashes path).dropLast ++ [['.']])
    .error .isFolder
  else
    host.tree.target (← host.tree.walk start (Path.segments path))

end Host

end ShaderPair
