/-
# Timestamps

An instant in universal time, to the nanosecond.  The texts that are read are those of the
international format in a relaxed form: white space is allowed before every number and before the
separators of a date and of a time, the parts may have fewer digits, and a year may have a sign.  A
61st second is kept as a leap second of the 60th one.

Key definitions: `Timestamp`, `Timestamp.parse?`, `Timestamp.text` and `Timestamp.clockText`.
-/
import AssetSearch.Calendar.Date
import AssetSearch.Text.Blank

namespace AssetSearch

/-- An instant: the day, the second of the day, and the nanoseconds since the start of that
second, of which a leap second has another thousand million. -/
structure Timestamp where
  date : Date
  second : Nat
  nanos : Nat
  deriving DecidableEq

namespace Timestamp

/-! ## Parts of a text -/

/-- Whether a character is a decimal digit. -/
def isDigit (c : Char) : Bool :=
  '0' ≤ c && c ≤ '9'

/-- The number written by decimal digits. -/
def ofDigits (s : List Char) : Nat :=
  s.foldl (fun n c => 10 * n + (c.toNat - '0'.toNat)) 0

/-- One digit or more. -/
def allDigits? (s : List Char) : Option (Nat × List Char) :=
  let ds := s.takeWhile isDigit
  if ds.isEmpty then none else some (ofDigits ds, s.dropWhile isDigit)

/-- At least one digit and at most `width`. -/
def digits? (width : Nat) (s : List Char) : Option (Nat × List Char) :=
  let ds := (s.take width).takeWhile isDigit
  if ds.isEmpty then none else some (ofDigits ds, s.drop ds.length)

/-- A number of one or two digits within bounds, behind any white space. -/
def field? (low high : Nat) (s : List Char) : Option (Nat × List Char) := do
  let (n, rest) ← digits? 2 (Text.stripStart s)
  if low ≤ n ∧ n ≤ high then some (n, rest) else none

/-- A year: up to four digits, or any number of digits behind a sign. -/
def year? (s : List Char) : Option (Int × List Char) :=
  match Text.stripStart s with
  | '-' :: rest => (allDigits? rest).map fun (n, tail) => (-(n : Int), tail)
  | '+' :: rest => (allDigits? rest).map fun (n, tail) => ((n : Int), tail)
  | s => (digits? 4 s).map fun (n, tail) => ((n : Int), tail)

/-- A given character, behind any white space. -/
def mark? (c : Char) (s : List Char) : Option (List Char) :=
  match Text.stripStart s with
  | d :: rest => if d = c then some rest else none
  | [] => none

/-- The fraction of a second in nanoseconds, if there is one; digits after the ninth have no
weight. -/
def fraction? (s : List Char) : Option (Nat × List Char) :=
  match s with
  | '.' :: rest =>
    let ds := rest.takeWhile isDigit
    if ds.isEmpty then none
    else
      let kept := ds.take 9
      some (ofDigits kept * Nat.pow 10 (9 - kept.length), rest.dropWhile isDigit)
  | s => some (0, s)

/-- Exactly two digits. -/
def twoDigits? (s : List Char) : Option (Nat × List Char) :=
  match s with
  | a :: b :: rest => if isDigit a && isDigit b then some (ofDigits [a, b], rest) else none
  | _ => none

/-- The hours and minutes of an offset in seconds; any colons and white space may stand between. -/
def offsetSize? (s : List Char) : Option (Nat × List Char) := do
  let (hours, rest) ← twoDigits? s
  let (minutes, tail) ← twoDigits? (rest.dropWhile fun c => c == ':' || Text.isBlank c)
  if minutes ≤ 59 ∧ hours ≤ 23 then some (hours * 3600 + minutes * 60, tail) else none

/-- Whether a text goes on with the letters of universal time, in any case. -/
def zone? (s : List Char) : Option (List Char) :=
  match s with
  | u :: t :: c :: rest =>
    if u.toUpper = 'U' ∧ t.toUpper = 'T' ∧ c.toUpper = 'C' then some rest else none
  | _ => none

/-- The distance to universal time in seconds, east positive. -/
def offset? (s : List Char) : Option (Int × List Char) :=
  match zone? s with
  | some rest => some (0, rest)
  | none =>
    match s with
    | [] => none
    | c :: rest =>
      if c = 'Z' ∨ c = 'z' then some (0, rest)
      else if c = '+' then (offsetSize? rest).map fun (n, tail) => ((n : Int), tail)
      else if c = '-' ∨ c = Char.ofNat 0x2212 then
        (offsetSize? rest).map fun (n, tail) => (-(n : Int), tail)
      else none

/-! ## Whole texts -/

/-- A date. -/
def date? (s : List Char) : Option (Date × List Char) := do
  let (year, s) ← year? s
  let s ← mark? '-' s
  let (month, s) ← field? 1 12 s
  let s ← mark? '-' s
  let (day, s) ← field? 1 31 s
  let date ← Date.of? year month day
  some (date, s)

/-- A time of day: the second of the day and the nanoseconds in it. -/
def time? (s : List Char) : Option ((Nat × Nat) × List Char) := do
  let (hour, s) ← field? 0 23 s
  let s ← mark? ':' s
  let (minute, s) ← field? 0 59 s
  let s ← mark? ':' s
  let (second, s) ← field? 0 60 s
  let (nanos, s) ← fraction? s
  let inMinute := min second 59
  let leap := if second = 60 then 1000000000 else 0
  some ((hour * 3600 + minute * 60 + inMinute, nanos + leap), s)

/-- The separator between a date and a time. -/
def separator? (s : List Char) : Option (List Char) :=
  match s with
  | c :: rest => if c = 'T' ∨ c = 't' ∨ c = ' ' then some rest else none
  | [] => none

/-- A local time of day moved to universal time, with the day if it leaves its own. -/
def moved? (date : Date) (second nanos : Nat) (offset : Int) : Option Timestamp :=
  let moved := (second : Int) - offset
  if moved < 0 then date.previous?.map fun d => ⟨d, (moved + 86400).toNat, nanos⟩
  else if 86400 ≤ moved then date.next?.map fun d => ⟨d, (moved - 86400).toNat, nanos⟩
  else some ⟨date, moved.toNat, nanos⟩

/-- The instant written by a text. -/
def parse? (s : List Char) : Option Timestamp := do
  let (date, s) ← date? s
  let s ← separator? s
  let ((second, nanos), s) ← time? s
  let (offset, s) ← offset? (Text.stripStart s)
  if s.all Text.isBlank then moved? date second nanos offset else none

/-! ## The text -/

/-- Hour, minute and second; a leap second is the 61st of its minute. -/
def clockChars (t : Timestamp) : List Char :=
  let leap := if 1000000000 ≤ t.nanos then 1 else 0
  Text.padded 2 (t.second / 3600) ++ ':' :: (Text.padded 2 (t.second / 60 % 60) ++
    ':' :: Text.padded 2 (t.second % 60 + leap))

/-- The fraction of the second with as few of 3, 6 or 9 digits as it needs, or none. -/
def fractionChars (nanos : Nat) : List Char :=
  if nanos = 0 then []
  else if nanos % 1000000 = 0 then '.' :: Text.padded 3 (nanos / 1000000)
  else if nanos % 1000 = 0 then '.' :: Text.padded 6 (nanos / 1000)
  else '.' :: Text.padded 9 nanos

/-- The time of day as hours, minutes and seconds. -/
def clockText (t : Timestamp) : String :=
  String.ofList t.clockChars

/-- The instant in universal time. -/
def text (t : Timestamp) : String :=
  String.ofList (t.date.chars ++ 'T' :: (t.clockChars ++ fractionChars (t.nanos % 1000000000) ++
    ['Z']))

end Timestamp

end AssetSearch
