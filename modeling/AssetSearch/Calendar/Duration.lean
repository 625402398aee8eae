/-
# Lengths of time

A length of time is shown in the largest of seconds, milliseconds, microseconds and nanoseconds of
which it has a whole one, with as many decimal places as it needs.
-/
import AssetSearch.Text.Padded

namespace AssetSearch

/-- A length of time in nanoseconds. -/
structure Duration where
  nanos : Nat
  deriving DecidableEq, Repr

namespace Duration

/-- Whole seconds and nanoseconds. -/
def ofParts (seconds nanos : Nat) : Duration :=
  ⟨seconds * 1000000000 + nanos⟩

/-- The length in a unit of `10^places` nanoseconds. -/
def inUnit (d : Duration) (places : Nat) (unit : String) : String :=
  let fraction := Text.dropEndZeros (Text.padded places (d.nanos % Nat.pow 10 places))
  String.ofList (Nat.toDigits 10 (d.nanos / Nat.pow 10 places) ++
    (if d.nanos % Nat.pow 10 places = 0 then [] else '.' :: fraction)) ++ unit

/-- The length in its largest unit. -/
def text (d : Duration) : String :=
  if 1000000000 ≤ d.nanos then d.inUnit 9 "s"
  else if 1000000 ≤ d.nanos then d.inUnit 6 "ms"
  else if 1000 ≤ d.nanos then d.inUnit 3 "µs"
  else d.inUnit 0 "ns"

end Duration

end AssetSearch
