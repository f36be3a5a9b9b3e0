/-
The time that an operation took, in words: whole seconds, cut off and not
rounded. Who reads the words takes off what stands around the number, and reads
the rest as one.
-/

import LatencyService.Text.Affix
import LatencyService.Text.Ascii

namespace LatencyService

/-- A span of time: seconds in sixty-four bits, and the nanoseconds of the last one. -/
structure Span where
  seconds : UInt64
  nanoseconds : Nat
  nanoseconds_lt : nanoseconds < 1000000000 := by omega
  deriving DecidableEq, Repr

namespace Span

/-- The whole milliseconds of a span. -/
def milliseconds (span : Span) : Nat := span.seconds.toNat * 1000 + span.nanoseconds / 1000000

/-- The span of so many milliseconds. -/
def ofMilliseconds (count : Nat) : Span where
  seconds := (count / 1000).toUInt64
  nanoseconds := count % 1000 * 1000000

/-- The whole seconds of a span, by way of its milliseconds. -/
def wholeSeconds (span : Span) : UInt64 := (span.milliseconds / 1000).toUInt64

/-- The whole length of a span, in nanoseconds. -/
def length (span : Span) : Nat := span.seconds.toNat * 1000000000 + span.nanoseconds

/-- The milliseconds are cut off and not rounded. -/
theorem milliseconds_eq_length_div (span : Span) :
    span.milliseconds = span.length / 1000000 := by
  rw [milliseconds, length]
  omega

/-- The seconds are cut off and not rounded. -/
theorem seconds_eq_length_div (span : Span) :
    span.seconds.toNat = span.length / 1000000000 := by
  have part := span.nanoseconds_lt
  rw [length]
  omega

/-- The way by milliseconds leads back to the seconds. -/
theorem milliseconds_div (span : Span) : span.milliseconds / 1000 = span.seconds.toNat := by
  rw [milliseconds_eq_length_div, seconds_eq_length_div, Nat.div_div_eq_div_mul]

theorem wholeSeconds_eq_seconds (span : Span) : span.wholeSeconds = span.seconds := by
  rw [wholeSeconds, milliseconds_div]
  exact UInt64.ofNat_toNat

/-- No span has more milliseconds than there is room for in twice sixty-four bits. -/
theorem milliseconds_lt (span : Span) : span.milliseconds < Nat.pow 2 128 := by
  have few : span.seconds.toNat < UInt64.size := span.seconds.toNat_lt
  have room : UInt64.size * 1000 ≤ Nat.pow 2 128 := by decide
  have whole := span.milliseconds_div
  omega

theorem wholeSeconds_le_of_length_le {shorter longer : Span}
    (shorterLe : shorter.length ≤ longer.length) :
    shorter.wholeSeconds ≤ longer.wholeSeconds := by
  rw [wholeSeconds_eq_seconds, wholeSeconds_eq_seconds, UInt64.le_iff_toNat_le,
    seconds_eq_length_div, seconds_eq_length_div]
  exact Nat.div_le_div_right shorterLe

end Span

namespace Elapsed

/-- The text that reports the time an operation took. -/
def message (seconds : UInt64) : String :=
  "Total time spent: " ++ toString seconds.toNat ++ " seconds"

/-- What stands before the number of seconds. -/
def opening : String := "Total time spent: "

/-- What stands behind the number of seconds. -/
def closing : String := " seconds"

/-- The seconds that a text tells, with the opening before them and the closing behind them any
number of times. -/
def read? (text : String) : Option UInt64 :=
  let number := Affix.trimEnd closing.toList (Affix.trimStart opening.toList text.toList)
  (Ascii.unsigned? UInt64.size number).map Nat.toUInt64

end Elapsed

end LatencyService
