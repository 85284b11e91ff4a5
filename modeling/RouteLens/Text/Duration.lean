/-!
# Durations

A span of time in whole seconds and nanoseconds, and its short text: the largest of seconds,
milliseconds and microseconds that is not zero, with an exact fraction.
-/

namespace RouteLens

/-- A span of time; `nanos` is below one second. -/
structure Duration where
  secs : Nat
  nanos : Nat := 0
  deriving DecidableEq, Repr

namespace Duration

/-- The span of so many seconds and nanoseconds, which may come to whole seconds. -/
def ofParts (secs nanos : Nat) : Duration :=
  { secs := secs + nanos / 1000000000, nanos := nanos % 1000000000 }

/-- The digits of a fraction of `places` digits, without the zeros at its end. -/
def fractionDigits (places frac : Nat) : List Char :=
  let digits := Nat.toDigits 10 frac
  let padded := List.replicate (places - digits.length) '0' ++ digits
  (padded.reverse.dropWhile (· == '0')).reverse

/-- The decimal text of `whole + frac / 10 ^ places`. -/
def decimal (whole frac places : Nat) : String :=
  match fractionDigits places frac with
  | [] => toString whole
  | digits => toString whole ++ "." ++ String.ofList digits

/-- The text of a span in its largest unit that is not zero. -/
def text (d : Duration) : String :=
  if d.secs > 0 then decimal d.secs d.nanos 9 ++ "s"
  else if d.nanos ≥ 1000000 then decimal (d.nanos / 1000000) (d.nanos % 1000000) 6 ++ "ms"
  else if d.nanos ≥ 1000 then decimal (d.nanos / 1000) (d.nanos % 1000) 3 ++ "µs"
  else toString d.nanos ++ "ns"

end Duration

end RouteLens
