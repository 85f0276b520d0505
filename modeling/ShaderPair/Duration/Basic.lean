import ShaderPair.Text.Basic

/-! Durations in whole seconds and nanoseconds, and the units of time with the names they go by. Sums
that a machine word of seconds cannot hold do not exist. -/

namespace ShaderPair

abbrev nanosPerSecond : Nat := 1000000000

structure Duration where
  seconds : UInt64
  nanos : Fin nanosPerSecond
  deriving DecidableEq, Repr

namespace Duration

def zero : Duration := ⟨0, 0⟩

/-- A duration of so many seconds and nanoseconds; full seconds of nanoseconds carry. -/
def ofParts? (seconds nanos : Nat) : Option Duration :=
  let total := seconds + nanos / nanosPerSecond
  if total < Text.wordLimit then
    some ⟨UInt64.ofNat total, ⟨nanos % nanosPerSecond, Nat.mod_lt _ (by decide)⟩⟩
  else none

/-- The sum with more seconds and nanoseconds; the nanoseconds must fit a machine word. -/
def add? (duration : Duration) (seconds nanos : Nat) : Option Duration :=
  if duration.nanos.val + nanos < Text.wordLimit then
    ofParts? (duration.seconds.toNat + seconds) (duration.nanos.val + nanos)
  else none

end Duration

inductive TimeUnit where
  | nanosecond
  | microsecond
  | millisecond
  | second
  | minute
  | hour
  | day
  | week
  | month
  | year
  deriving DecidableEq, Repr

namespace TimeUnit

def names : TimeUnit → List Text
  | nanosecond => ["nanos", "nsec", "ns"]
  | microsecond => ["usec", "us", "µs"]
  | millisecond => ["millis", "msec", "ms"]
  | second => ["seconds", "second", "secs", "sec", "s"]
  | minute => ["minutes", "minute", "min", "mins", "m"]
  | hour => ["hours", "hour", "hr", "hrs", "h"]
  | day => ["days", "day", "d"]
  | week => ["weeks", "week", "wk", "wks", "w"]
  | month => ["months", "month", "M"]
  | year => ["years", "year", "yr", "yrs", "y"]

def all : List TimeUnit :=
  [nanosecond, microsecond, millisecond, second, minute, hour, day, week, month, year]

def ofName? (name : Text) : Option TimeUnit := all.find? fun unit => unit.names.contains name

/-- Nanoseconds in a unit shorter than a second, seconds in the others. A month has 30.44 days and
a year 365.25. -/
def scale : TimeUnit → Nat
  | nanosecond => 1
  | microsecond => 1000
  | millisecond => 1000000
  | second => 1
  | minute => 60
  | hour => 3600
  | day => 86400
  | week => 604800
  | month => 2630016
  | year => 31557600

def isBelowSecond : TimeUnit → Bool
  | nanosecond | microsecond | millisecond => true
  | _ => false

end TimeUnit

end ShaderPair
