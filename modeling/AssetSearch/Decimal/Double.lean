/-
# Binary doubles

The finite numbers of the 64-bit binary format as exact integers: a sign, a significand below
`2^53` and a power of two, so that the value is `± significand · 2^exponent · 2^-1074`.  The
representation is unique, and every operation is the exact one on integers followed by one rounding
to the nearest double, ties to the even significand.

Key definitions: `Double`, `Double.nearest?` (rounding of a quotient), `Double.ofNat`,
`Double.mul?`, `Double.div?`.
-/

namespace AssetSearch

/-! ## The format -/

/-- A finite double.  Only the smallest binade (`exponent = 0`) holds significands below `2^52`. -/
structure Double where
  negative : Bool
  significand : Nat
  exponent : Nat
  significand_lt : significand < Nat.pow 2 53
  normal : exponent = 0 ∨ Nat.pow 2 52 ≤ significand
  exponent_le : exponent ≤ 2045
  deriving DecidableEq

namespace Double

/-- The number zero with a sign. -/
def zero (negative : Bool) : Double :=
  ⟨negative, 0, 0, by decide, Or.inl rfl, by decide⟩

instance : Inhabited Double := ⟨zero false⟩

/-- The number with the other sign. -/
def neg (x : Double) : Double :=
  { x with negative := !x.negative }

/-- Whether the number is zero, of either sign. -/
def isZero (x : Double) : Bool :=
  x.significand == 0

/-- The magnitude in units of `2^-1074`. -/
def magnitude (x : Double) : Nat :=
  x.significand * Nat.pow 2 x.exponent

/-! ## Rounding -/

/-- The integer nearest to `p / q`, a tie going to the even one. -/
def roundHalfEven (p q : Nat) : Nat :=
  let below := p / q
  let twice := 2 * (p % q)
  if twice < q then below
  else if q < twice then below + 1
  else if below % 2 = 0 then below else below + 1

theorem le_roundHalfEven (p q : Nat) : p / q ≤ roundHalfEven p q := by
  unfold roundHalfEven
  dsimp only
  split
  · omega
  · split
    · omega
    · split <;> omega

/-- The binade of `p / q`, counted in units of `2^-1074`: the smallest power of two that brings the
quotient below `2^53`. -/
def binade (p q : Nat) : Nat :=
  (p / q).log2 + 1 - 53

theorem le_div_binade (p q : Nat) (h : binade p q ≠ 0) :
    Nat.pow 2 52 ≤ p / (q * Nat.pow 2 (binade p q)) := by
  show 2 ^ 52 ≤ p / (q * 2 ^ binade p q)
  rw [← Nat.div_div_eq_div_mul, Nat.le_div_iff_mul_le (Nat.two_pow_pos _), ← Nat.pow_add]
  have hpos : p / q ≠ 0 := by
    intro h0
    simp [binade, h0] at h
  refine Nat.le_trans ?_ (Nat.log2_self_le hpos)
  exact Nat.pow_le_pow_right (by decide) (by unfold binade at h ⊢; omega)

/-- The double nearest to `± (p / q) · 2^-1074`, or nothing when that lies beyond the largest
one. -/
def nearest? (negative : Bool) (p q : Nat) : Option Double :=
  let e := binade p q
  let s := roundHalfEven p (q * Nat.pow 2 e)
  if hs : s < Nat.pow 2 53 then
    if he : e ≤ 2045 then
      some ⟨negative, s, e, hs, by
        by_cases h : e = 0
        · exact Or.inl h
        · exact Or.inr (Nat.le_trans (le_div_binade p q h) (le_roundHalfEven _ _)), he⟩
    else none
  else if he : e + 1 ≤ 2045 then
    some ⟨negative, Nat.pow 2 52, e + 1, by decide, Or.inr (by decide), he⟩
  else none

/-! ## Arithmetic -/

/-- The double nearest to a natural number, if it is in range. -/
def ofNat? (n : Nat) : Option Double :=
  nearest? false (n * Nat.pow 2 1074) 1

/-- The double nearest to a natural number below `2^64`; larger numbers are cut to that width. -/
def ofWord (n : Nat) : Double :=
  (ofNat? (n % UInt64.size)).getD (zero false)

/-- The double nearest to an integer of 64 bits. -/
def ofInt (n : Int) : Double :=
  match n with
  | Int.ofNat m => ofWord m
  | Int.negSucc m => (ofWord (m + 1)).neg

/-- The product, rounded; nothing when it overflows. -/
def mul? (x y : Double) : Option Double :=
  nearest? (x.negative != y.negative) (x.magnitude * y.magnitude) (Nat.pow 2 1074)

/-- The quotient by a number other than zero, rounded; nothing when it overflows. -/
def div? (x y : Double) : Option Double :=
  nearest? (x.negative != y.negative) (x.magnitude * Nat.pow 2 1074) y.magnitude

/-- The double nearest to a power of ten, up to `10^308`. -/
def powerOfTen (k : Nat) : Double :=
  (ofNat? (Nat.pow 10 (min k 308))).getD (zero false)

end Double

end AssetSearch
