import ShaderPair.Text.Basic

/-! Sets of characters, kept as runs of code points in ascending order with gaps between them. -/

namespace ShaderPair

/-- A set of characters: first and last code points of its runs. -/
structure CharSet where
  runs : List (Nat × Nat)
  deriving DecidableEq, Repr

namespace CharSet

def covers (code : Nat) (run : Nat × Nat) : Bool := run.1 ≤ code && code ≤ run.2

def holds (set : CharSet) (code : Nat) : Bool := set.runs.any (covers code)

def contains (set : CharSet) (c : Char) : Bool := set.holds c.toNat

def lastCode : Nat := 0x10FFFF

def empty : CharSet := ⟨[]⟩

def all : CharSet := ⟨[(0, lastCode)]⟩

def span (first last : Char) : CharSet := ⟨[(first.toNat, last.toNat)]⟩

def single (c : Char) : CharSet := span c c

/-- Join a run with those after it that it touches, which are ordered by their first code points. -/
def joinFrom : Nat × Nat → List (Nat × Nat) → List (Nat × Nat)
  | run, [] => [run]
  | run, next :: rest =>
    if next.1 ≤ run.2 + 1 then joinFrom (run.1, max run.2 next.2) rest else run :: joinFrom next rest

def ofRuns (runs : List (Nat × Nat)) : CharSet :=
  match runs.mergeSort (fun one other => one.1 ≤ other.1) with
  | [] => empty
  | first :: rest => ⟨joinFrom first rest⟩

/-- Every other code point of the runs. -/
def everyOther (runs : List (Nat × Nat)) : List (Nat × Nat) :=
  runs.flatMap fun run =>
    (List.range ((run.2 - run.1) / 2 + 1)).map fun index => (run.1 + 2 * index, run.1 + 2 * index)

def union (left right : CharSet) : CharSet := ofRuns (left.runs ++ right.runs)

def unions (sets : List CharSet) : CharSet := ofRuns (sets.flatMap runs)

def gapsFrom (start : Nat) : List (Nat × Nat) → List (Nat × Nat)
  | [] => if start ≤ lastCode then [(start, lastCode)] else []
  | run :: rest =>
    if start < run.1 then (start, run.1 - 1) :: gapsFrom (run.2 + 1) rest else gapsFrom (run.2 + 1) rest

def complement (set : CharSet) : CharSet := ⟨gapsFrom 0 set.runs⟩

def intersection (left right : CharSet) : CharSet := (left.complement.union right.complement).complement

def difference (left right : CharSet) : CharSet := left.intersection right.complement

def symmetricDifference (left right : CharSet) : CharSet :=
  (left.union right).difference (left.intersection right)

def isAscii (set : CharSet) : Bool := set.runs.all (·.2 < 128)

def only? (set : CharSet) : Option Char :=
  match set.runs with
  | [(first, last)] => if first == last then some (Char.ofNat first) else none
  | _ => none

end CharSet

end ShaderPair
