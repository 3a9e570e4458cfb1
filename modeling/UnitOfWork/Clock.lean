/-!
# Instants and durations

Instants are read from a monotone clock and counted in seconds from its origin.
The clock ends at `Instant.latest`, so that a limit may lie too far ahead to be
an instant at all.  A duration is written with the largest unit that is at least
one, without needless zeros.
-/

namespace UnitOfWork

/-- A reading of the clock, in seconds from its origin. -/
abbrev Instant := Nat

namespace Instant

/-- The last instant that the clock can show, the greatest number of 63 bits. -/
def latest : Instant := 9_223_372_036_854_775_807

/-- The instant a number of seconds after a given one, if the clock gets
there. -/
def after (now : Instant) (seconds : Nat) : Option Instant :=
  if now + seconds ≤ latest then some (now + seconds) else none

end Instant

/-- A length of time in seconds and nanoseconds. -/
structure Duration where
  seconds : Nat
  nanos : Nat := 0
  deriving DecidableEq

namespace Duration

/-- The duration of a number of seconds and nanoseconds, where whole seconds
among the nanoseconds are carried over. -/
def of (seconds nanos : Nat) : Duration where
  seconds := seconds + nanos / 1_000_000_000
  nanos := nanos % 1_000_000_000

/-- A number below `10 ^ width` in exactly that many decimal digits, most
significant first. -/
def digits (n : Nat) : (width : Nat) → List Char
  | 0 => []
  | width + 1 => digits (n / 10) width ++ [Nat.digitChar (n % 10)]

/-- The digits after the point of a fraction, with the point in front: none when
all of them are zero, and none that is a zero at the end. -/
def fraction (n width : Nat) : String :=
  match ((digits n width).reverse.dropWhile (· == '0')).reverse with
  | [] => ""
  | cs => String.ofList ('.' :: cs)

/-- The text of a duration in seconds, milliseconds, microseconds or
nanoseconds, whichever is the first to make it at least one. -/
def text (d : Duration) : String :=
  if 0 < d.seconds then
    toString d.seconds ++ fraction d.nanos 9 ++ "s"
  else if 1_000_000 ≤ d.nanos then
    toString (d.nanos / 1_000_000) ++ fraction (d.nanos % 1_000_000) 6 ++ "ms"
  else if 1_000 ≤ d.nanos then
    toString (d.nanos / 1_000) ++ fraction (d.nanos % 1_000) 3 ++ "µs"
  else
    toString d.nanos ++ "ns"

example : text (of 2 500000000) = "2.5s" := by decide +kernel

example : text (of 0 1234567) = "1.234567ms" := by decide +kernel

example : text (of 0 20500) = "20.5µs" := by decide +kernel

example : text (of 0 999) = "999ns" := by decide +kernel

end Duration

end UnitOfWork
