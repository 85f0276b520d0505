import ShaderPair.Duration.Basic

/-! Durations as text: a row of numbers with units that can be read back, and the brief form of
debugging output. -/

namespace ShaderPair.Duration

/-- The nonzero parts of a duration, from years down to nanoseconds, with their unit words. -/
def parts (duration : Duration) : List (Nat × Text) :=
  let seconds := duration.seconds.toNat
  let nanos := duration.nanos.val
  let inYear := seconds % TimeUnit.year.scale
  let inMonth := inYear % TimeUnit.month.scale
  let inDay := inMonth % TimeUnit.day.scale
  let inHour := inDay % TimeUnit.hour.scale
  let plural (count : Nat) (word : Text) : Nat × Text :=
    (count, if count > 1 then word ++ ['s'] else word)
  let all : List (Nat × Text) := [
    plural (seconds / TimeUnit.year.scale) "year",
    plural (inYear / TimeUnit.month.scale) "month",
    plural (inMonth / TimeUnit.day.scale) "day",
    (inDay / TimeUnit.hour.scale, "h"),
    (inHour / TimeUnit.minute.scale, "m"),
    (inHour % TimeUnit.minute.scale, "s"),
    (nanos / 1000000, "ms"),
    (nanos / 1000 % 1000, "us"),
    (nanos % 1000, "ns")]
  all.filter (·.1 != 0)

def text (duration : Duration) : Text :=
  if duration = zero then "0s"
  else Text.join " " (duration.parts.map fun part => Text.decimal part.1 ++ part.2)

/-- A number followed by the digits of a fraction with the given places, trailing zeros left out. -/
def withFraction (whole fraction places : Nat) : Text :=
  let digits := Text.decimal fraction
  let padded := List.replicate (places - digits.length) '0' ++ digits
  let kept := (padded.reverse.dropWhile (· == '0')).reverse
  if kept.isEmpty then Text.decimal whole else Text.decimal whole ++ "." ++ kept

/-- The largest of s, ms, µs and ns that leaves a whole part, with a decimal fraction. -/
def brief (duration : Duration) : Text :=
  let nanos := duration.nanos.val
  if duration.seconds != 0 then withFraction duration.seconds.toNat nanos 9 ++ "s"
  else if nanos ≥ 1000000 then withFraction (nanos / 1000000) (nanos % 1000000) 6 ++ "ms"
  else if nanos ≥ 1000 then withFraction (nanos / 1000) (nanos % 1000) 3 ++ "µs"
  else Text.decimal nanos ++ "ns"

end ShaderPair.Duration
