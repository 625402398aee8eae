/-
# The shortest decimal text of a double

A double is written with the fewest decimal digits that still round to it; of several such decimals
the nearest one is taken, and of two equally near the one with the even last digit.  The decimals
that round to a double form an interval around it, which contains its ends exactly when the
significand is even.

Key definitions: `Double.onGrid?` (a decimal of the interval on one decimal grid) and
`Double.shortest` (the coarsest grid with such a decimal).
-/
import AssetSearch.Decimal.Double

namespace AssetSearch.Double

/-! ## The interval that rounds to a double -/

/-- How far the interval reaches below the number, in quarters of its unit.  Below a power of two
the doubles stand twice as close, so the interval reaches half as far. -/
def lowerReach (x : Double) : Nat :=
  if x.significand = Nat.pow 2 52 ∧ 0 < x.exponent then 1 else 2

/-- Whether the non-negative rational `p / q`, in units of `2^-1076`, rounds to the magnitude. -/
def roundsHere (x : Double) (p q : Nat) : Bool :=
  let low := (4 * x.significand - x.lowerReach) * Nat.pow 2 x.exponent * q
  let high := (4 * x.significand + 2) * Nat.pow 2 x.exponent * q
  if x.significand % 2 = 0 then low ≤ p && p ≤ high else low < p && p < high

/-! ## Decimal grids -/

/-- The magnitude divided by `10^k`, as a fraction. -/
def overPowerOfTen (x : Double) (k : Int) : Nat × Nat :=
  match k with
  | Int.ofNat n => (x.magnitude, Nat.pow 2 1074 * Nat.pow 10 n)
  | Int.negSucc n => (x.magnitude * Nat.pow 10 (n + 1), Nat.pow 2 1074)

/-- Whether `d · 10^k` rounds to the magnitude. -/
def decimalRoundsHere (x : Double) (d : Nat) (k : Int) : Bool :=
  match k with
  | Int.ofNat n => x.roundsHere (d * Nat.pow 10 n * Nat.pow 2 1076) 1
  | Int.negSucc n => x.roundsHere (d * Nat.pow 2 1076) (Nat.pow 10 (n + 1))

/-- A multiple of `10^k` that rounds to the magnitude, by its digits: the nearer of the two
neighbours on the grid if it does, else the other one. -/
def onGrid? (x : Double) (k : Int) : Option Nat :=
  let (p, q) := x.overPowerOfTen k
  let near := roundHalfEven p q
  let far := if near = p / q then near + 1 else p / q
  if x.decimalRoundsHere near k then some near
  else if x.decimalRoundsHere far k then some far
  else none

/-- A power of ten whose grid is too coarse for the magnitude, or just fits. -/
def coarsest (x : Double) : Int :=
  ((x.magnitude.log2 : Int) + 1 - 1074) * 30103 / 100000 + 1

/-- The shortest decimal of the magnitude: its digits and the power of ten of the last one. -/
def shortest (x : Double) : Nat × Int :=
  ((List.range 20).findSome? fun (i : Nat) =>
      let k := x.coarsest - Int.ofNat i
      (x.onGrid? k).map fun d => (d, k)).getD (0, 0)

/-! ## The text -/

/-- Removes the last digit as long as it is zero. -/
def trimZeros : Nat → Nat × Int → Nat × Int
  | 0, r => r
  | fuel + 1, (d, k) => if d ≠ 0 ∧ d % 10 = 0 then trimZeros fuel (d / 10, k + 1) else (d, k)

/-- The text of a decimal with the given digits whose first digit has weight `10^scale`.  Scales
from `-5` to `15` are written positionally and always with a fraction, all others with an exponent
that carries its sign. -/
def layout (digits : List Char) (scale : Int) : List Char :=
  let n : Int := digits.length
  if 0 ≤ scale ∧ scale ≤ 15 then
    let whole := scale.toNat + 1
    if n ≤ whole then
      digits ++ List.replicate (whole - digits.length) '0' ++ ['.', '0']
    else digits.take whole ++ ['.'] ++ digits.drop whole
  else if -5 ≤ scale ∧ scale < 0 then
    ['0', '.'] ++ List.replicate (-scale - 1).toNat '0' ++ digits
  else
    let fraction := digits.drop 1
    digits.take 1 ++ (if fraction.isEmpty then [] else '.' :: fraction) ++ ['e'] ++
      [if scale < 0 then '-' else '+'] ++ Nat.toDigits 10 scale.natAbs

/-- The text of a double: its shortest digits, laid out. -/
def text (x : Double) : List Char :=
  let (d, k) := trimZeros 20 x.shortest
  let digits := Nat.toDigits 10 d
  (if x.negative then ['-'] else []) ++
    if x.isZero then ['0', '.', '0'] else layout digits (k + digits.length - 1)

end AssetSearch.Double
