import ShaderPair.Log
import ShaderPair.Pattern.Size
import ShaderPair.Table

/-! Which events are shown. A base level holds for all parts of the program; directives such as
`part=level` raise or lower it for the parts whose label starts so, the longest one deciding. A
pattern after a slash limits all of it to the messages in which it is found. -/

namespace ShaderPair.Log

/-- How detailed events may be; nothing is shown when turned off. -/
inductive Limit where
  | off
  | upTo (level : Level)
  deriving DecidableEq, Repr

namespace Limit

def rank : Limit → Nat
  | off => 0
  | upTo level => level.rank

def admits (limit : Limit) (level : Level) : Bool := level.rank ≤ limit.rank

def ofWord? (word : Text) : Option Limit :=
  if Text.lower word == ['o', 'f', 'f'] then some off
  else (Level.ofWord? (Text.lower word)).map upTo

end Limit

structure Filter where
  base : Limit
  directives : Table Limit
  pattern : Option Pattern
  deriving DecidableEq, Repr

namespace Filter

/-- One directive: a limit for all, a label, or a label with its limit. Others are ignored. -/
def withDirective (filter : Filter) (directive : Text) : Filter :=
  match Text.split (· == '=') (Text.trim directive) with
  | [word] =>
    if word.isEmpty then filter
    else match Limit.ofWord? word with
      | some limit => { filter with base := limit }
      | none => { filter with directives := filter.directives.insert word (.upTo .trace) }
  | [label, word] =>
    if (Text.trim word).isEmpty then
      { filter with directives := filter.directives.insert label (.upTo .trace) }
    else match Limit.ofWord? (Text.trim word) with
      | some limit => { filter with directives := filter.directives.insert label limit }
      | none => filter
  | _ => filter

/-- The directives of a specification and the text of its pattern. More than one slash is too many. -/
def parts? (specification : Text) : Option (List Text × Option Text) :=
  match Text.split (· == '/') specification with
  | [directives] => some (Text.split (· == ',') directives, none)
  | [directives, pattern] => some (Text.split (· == ',') directives, some pattern)
  | _ => none

/-- The filter of a run: the level asked for, then what the specification adds to it. -/
def ofText (level : Level) (specification : Text) : Filter :=
  match parts? specification with
  | none => ⟨.upTo level, .empty, none⟩
  | some (directives, pattern) =>
    directives.foldl withDirective
      ⟨.upTo level, .empty, pattern.bind fun text => (Pattern.read text).toOption⟩

def faultyPart? (directive : Text) : Option Text :=
  match Text.split (· == '=') (Text.trim directive) with
  | [_] => none
  | [_, word] =>
    if (Text.trim word).isEmpty || (Limit.ofWord? (Text.trim word)).isSome then none
    else some (Text.trim word)
  | _ => some (Text.trim directive)

def directiveFault? (directive : Text) : Option Text :=
  (faultyPart? directive).map fun part => "invalid logging spec '" ++ part ++ "'"

def patternFault? (text : Text) : Option Text :=
  match Pattern.read text with
  | .ok _ => none
  | .error rejection => some ("invalid regex filter - " ++ rejection.message text)

def faults (specification : Text) : List Text :=
  match parts? specification with
  | none => ["invalid logging spec '" ++ specification ++ "' (too many '/'s)"]
  | some (directives, pattern) =>
    directives.filterMap directiveFault? ++ (pattern.bind patternFault?).toList

def warnings (specification : Text) : Text :=
  (faults specification).flatMap fun fault => "warning: " ++ fault ++ ", ignoring it\n"

/-- The limit of the longest label that the source's label starts with. -/
def limitOf (filter : Filter) (source : Source) : Limit :=
  let fitting := filter.directives.entries.filter fun entry => Text.startsWith entry.1 source.label
  let longest := fitting.foldl (fun (best : Option (Text × Limit)) entry =>
    match best with
    | some held => if held.1.length < entry.1.length then some entry else best
    | none => some entry) none
  match longest with
  | some entry => entry.2
  | none => filter.base

def shows (filter : Filter) (event : Event) : Bool :=
  (filter.limitOf event.source).admits event.level && filter.pattern.all (·.isIn event.message)

end Filter

end ShaderPair.Log
