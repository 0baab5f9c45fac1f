namespace UptimeSync

/-- A span of time in whole nanoseconds. -/
structure Duration where
  nanos : Nat
deriving DecidableEq

namespace Duration

def ofMillis (ms : Nat) : Duration := ⟨ms * 1000000⟩

/-- The whole seconds in a duration. -/
def seconds (d : Duration) : Nat := d.nanos / 1000000000

/-- The whole milliseconds in a duration. -/
def millis (d : Duration) : Nat := d.nanos / 1000000

/-- The whole milliseconds in a duration, clamped to 64 bits. -/
def clampedMillis (d : Duration) : UInt64 :=
  UInt64.ofNat (min d.millis (UInt64.size - 1))

/-- The least number of whole milliseconds that is not shorter than a duration. -/
def ceilMillis (d : Duration) : Nat := (d.nanos + 999999) / 1000000

@[simp] theorem ceilMillis_ofMillis (ms : Nat) : (ofMillis ms).ceilMillis = ms := by
  change (ms * 1000000 + 999999) / 1000000 = ms
  omega

/-- A fraction of `places` decimal places with the zeros at its end dropped, behind a point. An
empty fraction has no point. -/
private def fraction (part places : Nat) : List Char :=
  let written := Nat.toDigits 10 part
  let digits := List.replicate (places - written.length) '0' ++ written
  match (digits.reverse.dropWhile (· == '0')).reverse with
  | [] => []
  | kept => '.' :: kept

/-- The text of a duration in the largest unit, from seconds down to nanoseconds, of which it holds
at least one. -/
def text (d : Duration) : String :=
  let inUnit (places : Nat) (unit : String) : String :=
    let size := Nat.pow 10 places
    toString (d.nanos / size) ++ String.ofList (fraction (d.nanos % size) places) ++ unit
  if 1000000000 ≤ d.nanos then inUnit 9 "s"
  else if 1000000 ≤ d.nanos then inUnit 6 "ms"
  else if 1000 ≤ d.nanos then inUnit 3 "µs"
  else inUnit 0 "ns"

end Duration
end UptimeSync
