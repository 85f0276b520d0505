import ShaderPair.Text.Basic

/-! Paths as text, with `/` between their segments. Empty segments and inner dots stand for
nothing, a leading slash for the root. -/

namespace ShaderPair.Path

def segments (path : Text) : List Text := Text.split (· == '/') path

def isAbsolute (path : Text) : Bool := Text.startsWith "/" path

def upward : Text := ['.', '.']

def withoutFinalSlashes (path : Text) : List Text :=
  ((segments path).reverse.dropWhile List.isEmpty).reverse

/-- Whether the last segment is empty or leads to a folder whatever it is called. -/
def meansFolder (path : Text) : Bool :=
  (segments path).getLast?.all fun last => last.isEmpty || last == ['.'] || last == upward

/-- A name inside a folder. The empty path is the working folder, and an absolute name stays. -/
def join (folder name : Text) : Text :=
  if isAbsolute name || folder.isEmpty then name
  else if folder.getLast? = some '/' then folder ++ name
  else folder ++ "/" ++ name

def isIdle (segment : Text) : Bool := segment.isEmpty || segment == ['.']

def dropIdle (segments : List Text) : List Text := (segments.reverse.dropWhile isIdle).reverse

/-- The folder a path lies in, if it is neither empty nor the root. -/
def parent? (path : Text) : Option Text :=
  match segments path with
  | [] => none
  | first :: rest =>
    match dropIdle rest with
    | [] => if first.isEmpty then none else some []
    | kept =>
      let above := dropIdle kept.dropLast
      if isAbsolute path && above.isEmpty then some "/" else some (Text.join "/" (first :: above))

def above : Nat → Text → List Text
  | 0, _ => []
  | levels + 1, path =>
    match parent? path with
    | none => []
    | some folder => folder :: above levels folder

def tidy (path : Text) : Text :=
  let kept := Text.join "/" ((segments path).filter (!isIdle ·))
  if isAbsolute path then "/" ++ kept else kept

end ShaderPair.Path
