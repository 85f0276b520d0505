import ShaderPair.Text.Utf8

/-! Environment variables, in the order in which they were first set. -/

namespace ShaderPair.Variables

/-- A variable that is set again takes the new value in its old position. -/
def assign (name value : Text) : List (Text × Text) → List (Text × Text)
  | [] => [(name, value)]
  | first :: rest => if first.1 == name then (name, value) :: rest else first :: assign name value rest

def ofAssignments (assignments : List (Text × Text)) : List (Text × Text) :=
  assignments.foldl (fun held assignment => assign assignment.1 assignment.2 held) []

/-- The variables of a process, written one after the other with zero bytes between them. -/
def ofBytes (bytes : Bytes) : List (Text × Text) :=
  ofAssignments ((Text.split (·.toNat == 0) (Text.ofUtf8 bytes)).filterMap (Text.cut? "="))

end ShaderPair.Variables
