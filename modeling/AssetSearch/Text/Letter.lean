/-
# Letters and numbers

Main statements: `isAlphabetic_of_isAlpha` and `isNumeric_of_isDigit` (the letters and digits below
`U+0080` are letters and numbers here).
-/
import AssetSearch.Text.LetterTables

namespace AssetSearch.Text

/-- Whether words are written with a character. -/
def isAlphabetic (c : Char) : Bool :=
  inSpans c.toNat alphabeticSpans

/-- Whether numbers are written with a character. -/
def isNumeric (c : Char) : Bool :=
  inSpans c.toNat numberSpans

/-- Whether a character is a letter or a number. -/
def isAlphanumeric (c : Char) : Bool :=
  isAlphabetic c || isNumeric c

theorem inSpans_ascii : ∀ n < 128,
    ((Char.ofNat n).isAlpha = true → inSpans n alphabeticSpans = true) ∧
      ((Char.ofNat n).isDigit = true → inSpans n numberSpans = true) := by
  decide

theorem isAlphabetic_of_isAlpha (c : Char) (h : c.isAlpha = true) : isAlphabetic c = true := by
  have small : c.toNat < 128 := by
    have hcase : c.isUpper = true ∨ c.isLower = true := Bool.or_eq_true_iff.1 h
    rcases hcase with h | h
    · have hupper : 'A'.val ≤ c.val ∧ c.val ≤ 'Z'.val := of_decide_eq_true h
      exact Nat.lt_of_le_of_lt (UInt32.le_iff_toNat_le.1 hupper.2) (by decide)
    · have hlower : c.val ≤ 'z'.val := of_decide_eq_true (Bool.and_eq_true_iff.1 h).2
      exact Nat.lt_of_le_of_lt (UInt32.le_iff_toNat_le.1 hlower) (by decide)
  exact (inSpans_ascii c.toNat small).1 (by rwa [Char.ofNat_toNat])

theorem isNumeric_of_isDigit (c : Char) (h : c.isDigit = true) : isNumeric c = true := by
  have small : c.toNat < 128 := by
    simp only [Char.isDigit, Bool.and_eq_true, decide_eq_true_eq, ge_iff_le,
      UInt32.le_iff_toNat_le] at h
    simp only [Char.toNat]
    exact Nat.lt_of_le_of_lt h.2 (by decide)
  exact (inSpans_ascii c.toNat small).2 (by rwa [Char.ofNat_toNat])

end AssetSearch.Text
