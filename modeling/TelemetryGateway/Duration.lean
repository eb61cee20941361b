/-!
# Durations

A duration is a number of nanoseconds.  It is shown in the largest of seconds, milliseconds,
microseconds and nanoseconds that gives a non-zero integer part, with the exact fraction and
without zeros at its end.
-/

namespace TelemetryGateway

/-- A span of time in nanoseconds. -/
structure Duration where
  nanoseconds : Nat
deriving DecidableEq, Inhabited

namespace Duration

def ofMilliseconds (n : Nat) : Duration := ⟨n * Nat.pow 10 6⟩

def ofSeconds (seconds nanoseconds : Nat) : Duration := ⟨seconds * Nat.pow 10 9 + nanoseconds⟩

/-- The digits of `n / 10 ^ places` after the point, without zeros at the end. -/
def fractionDigits (n places : Nat) : List Char :=
  let ds := Nat.toDigits 10 n
  let padded := List.replicate (places - ds.length) '0' ++ ds
  (padded.reverse.dropWhile (· == '0')).reverse

/-- `n / 10 ^ places` as a decimal, with the name of its unit. -/
def renderIn (n places : Nat) (unit : List Char) : String :=
  let fraction := fractionDigits (n % Nat.pow 10 places) places
  String.ofList (Nat.toDigits 10 (n / Nat.pow 10 places) ++
    (if fraction.isEmpty then [] else '.' :: fraction) ++ unit)

def render (d : Duration) : String :=
  if Nat.pow 10 9 ≤ d.nanoseconds then renderIn d.nanoseconds 9 ['s']
  else if Nat.pow 10 6 ≤ d.nanoseconds then renderIn d.nanoseconds 6 ['m', 's']
  else if Nat.pow 10 3 ≤ d.nanoseconds then renderIn d.nanoseconds 3 ['µ', 's']
  else renderIn d.nanoseconds 0 ['n', 's']

end Duration

end TelemetryGateway
