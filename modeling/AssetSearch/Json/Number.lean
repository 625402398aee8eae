/-
# The numbers of JSON texts

A number text is an optional minus sign, a whole part without leading zeros, an optional fraction
and an optional exponent.  A whole number that fits 64 bits stays an integer; every other number
becomes a double.  Its significand is the longest prefix of the digits that fits 64 bits, rounded,
and then multiplied or divided by one power of ten; a number too large for a double has no value.

Key definitions: `Number.Literal` (a number text taken apart), `Number.Literal.value?`,
`Number.literal?` (the grammar) and `Number.text` (the text of a number).
-/
import AssetSearch.Json.Basic
import AssetSearch.Decimal.Shortest

namespace AssetSearch.Number

/-! ## The grammar -/

/-- A number text taken apart: digits are values below ten, most significant first. -/
structure Literal where
  negative : Bool
  whole : List Nat
  fraction : Option (List Nat)
  exponent : Option Int

/-- The value of a decimal digit. -/
def digit? (c : Char) : Option Nat :=
  if '0' ≤ c ∧ c ≤ '9' then some (c.toNat - '0'.toNat) else none

/-- The digits at the start of a text, and what follows them. -/
def digits : List Char → List Nat × List Char
  | [] => ([], [])
  | c :: rest =>
    match digit? c with
    | none => ([], c :: rest)
    | some d => let (ds, tail) := digits rest; (d :: ds, tail)

/-- The natural number written by the digits. -/
def ofDigits (ds : List Nat) : Nat :=
  ds.foldl (fun n d => 10 * n + d) 0

/-- The fraction, if the text goes on with one; nothing when a point has no digit behind it. -/
def fraction? : List Char → Option (Option (List Nat) × List Char)
  | '.' :: rest =>
    match digits rest with
    | ([], _) => none
    | (ds, tail) => some (some ds, tail)
  | s => some (none, s)

/-- The digits of an exponent behind its sign. -/
def exponentDigits? (sign : Int) (s : List Char) : Option (Option Int × List Char) :=
  match digits s with
  | ([], _) => none
  | (ds, tail) => some (some (sign * ofDigits ds), tail)

/-- The exponent, if the text goes on with one; nothing when its mark has no digits behind it. -/
def exponent? : List Char → Option (Option Int × List Char)
  | [] => some (none, [])
  | c :: rest =>
    if c = 'e' ∨ c = 'E' then
      match rest with
      | '+' :: s => exponentDigits? 1 s
      | '-' :: s => exponentDigits? (-1) s
      | s => exponentDigits? 1 s
    else some (none, c :: rest)

/-- A number text without its sign. -/
def unsigned? (negative : Bool) (s : List Char) : Option Literal :=
  let (whole, afterWhole) := digits s
  if whole = [] ∨ (whole.head? = some 0 ∧ 1 < whole.length) then none
  else do
    let (fraction, afterFraction) ← fraction? afterWhole
    let (exponent, rest) ← exponent? afterFraction
    if rest = [] then some ⟨negative, whole, fraction, exponent⟩ else none

/-- The parts of a number text; nothing when the text is not a number. -/
def literal? : List Char → Option Literal
  | '-' :: rest => unsigned? true rest
  | s => unsigned? false s

/-! ## The value -/

/-- The largest unsigned word of 64 bits. -/
def maxWord : Nat :=
  UInt64.size - 1

/-- Appends digits to a significand as long as it fits 64 bits; also the digits left over. -/
def absorb : Nat → List Nat → Nat × List Nat
  | n, [] => (n, [])
  | n, d :: ds => if 10 * n + d ≤ maxWord then absorb (10 * n + d) ds else (n, d :: ds)

/-- Divides by `10^k`, in steps no larger than `10^308`. -/
def shrink (x : Double) (k : Nat) : Option Double :=
  if k ≤ 308 then x.div? (Double.powerOfTen k)
  else if x.isZero then some x
  else do shrink (← x.div? (Double.powerOfTen 308)) (k - 308)
termination_by k

/-- Multiplies by a power of ten. -/
def scale? (x : Double) (k : Int) : Option Double :=
  match k with
  | Int.ofNat n =>
    if n ≤ 308 then x.mul? (Double.powerOfTen n) else if x.isZero then some x else none
  | Int.negSucc n => shrink x (n + 1)

/-- The number with the given sign and magnitude that fits 64 bits: an integer if it has one. -/
def ofMagnitude (negative : Bool) (n : Nat) : Number :=
  if negative then
    if n = 0 ∨ UInt64.size / 2 < n then double (Double.ofWord n).neg else integer (-n)
  else integer n

/-- The value of a number text; nothing when it is too large. -/
def Literal.value? (l : Literal) : Option Number :=
  let (n, dropped) := absorb 0 l.whole
  if l.fraction = none ∧ l.exponent = none ∧ dropped = [] then some (ofMagnitude l.negative n)
  else
    let fraction := l.fraction.getD []
    let (m, rest) := absorb n fraction
    let used : Int := fraction.length - rest.length
    (scale? (Double.ofWord m) (dropped.length - used + l.exponent.getD 0)).map fun x =>
      double (if l.negative then x.neg else x)

/-! ## The text -/

/-- The text of an integer. -/
def integerText : Int → List Char
  | Int.ofNat n => Nat.toDigits 10 n
  | Int.negSucc n => '-' :: Nat.toDigits 10 (n + 1)

/-- The text of a number. -/
def text : Number → List Char
  | integer n => integerText n
  | double x => x.text

end AssetSearch.Number
