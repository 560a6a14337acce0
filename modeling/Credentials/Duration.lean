import Credentials.Text.Digit

/-!
# Durations

A duration counts seconds and nanoseconds. It is shown in its largest unit, with as many fraction digits
as it needs.
-/

namespace Credentials

/-- A length of time with nanosecond precision. -/
structure Duration where
  seconds : Nat
  nanos : Nat
  /-- Seconds fit in 64 bits. -/
  seconds_lt : seconds < 2 ^ 64
  /-- The rest is less than a second. -/
  nanos_lt : nanos < 1000000000
deriving DecidableEq

namespace Duration

/-- The duration of seconds and nanoseconds, if it is one. -/
def ofParts? (seconds nanos : Nat) : Option Duration :=
  if h : seconds < 2 ^ 64 ∧ nanos < 1000000000 then some ⟨seconds, nanos, h.1, h.2⟩ else none

/-- The whole milliseconds. -/
def millis (d : Duration) : Nat := d.seconds * 1000 + d.nanos / 1000000

/-- The duration of a number of milliseconds that fits in 64 bits. -/
def ofMillis (n : Nat) (h : n < 2 ^ 64) : Duration :=
  ⟨n / 1000, n % 1000 * 1000000, by omega, by omega⟩

/-- The length in nanoseconds. -/
def toNanos (d : Duration) : Nat := d.seconds * 1000000000 + d.nanos

/-- A number with a fraction of so many digits, without the zeros at its end. -/
def decimalText (whole fraction digits : Nat) : String :=
  let text := Nat.toDigits 10 fraction
  let padded := List.replicate (digits - text.length) '0' ++ text
  let shown := (padded.reverse.dropWhile (· == '0')).reverse
  toString whole ++ (if shown.isEmpty then "" else "." ++ String.ofList shown)

/-- The text of a duration. -/
def text (d : Duration) : String :=
  if 0 < d.seconds then decimalText d.seconds d.nanos 9 ++ "s"
  else if 1000000 ≤ d.nanos then decimalText (d.nanos / 1000000) (d.nanos % 1000000) 6 ++ "ms"
  else if 1000 ≤ d.nanos then decimalText (d.nanos / 1000) (d.nanos % 1000) 3 ++ "µs"
  else toString d.nanos ++ "ns"

end Duration

end Credentials
