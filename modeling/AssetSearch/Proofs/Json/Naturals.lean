/-
# The texts of natural numbers

A scalar is read as a natural number just if it is written as one: in decimal digits without a sign,
leading zeros, a fraction or an exponent, and within 64 bits.  Every other number text is a double
or a negative integer, even where its value is a natural number.

Key definitions: `Number.Plain` (the digits of a whole number).  Key statements:
`Number.value?_eq_natural_iff`, `Number.literal?_eq_natural_iff`, `Json.scalar?_eq_natural_iff`.
-/
import AssetSearch.Json.Token
import Mathlib.Data.Nat.Digits.Lemmas

namespace AssetSearch

namespace Number

/-! ## Digits -/

theorem digit?_eq_some_iff {c : Char} {d : Nat} :
    digit? c = some d ↔ d < 10 ∧ c = Nat.digitChar d := by
  constructor
  · intro h
    unfold digit? at h
    split at h
    · next hrange =>
      have hlow : 48 ≤ c.toNat := hrange.1
      have hhigh : c.toNat ≤ 57 := hrange.2
      obtain rfl : c.toNat - 48 = d := Option.some.inj h
      have hlt : c.toNat - 48 < 10 := by omega
      refine ⟨hlt, Char.toNat_inj.mp ?_⟩
      rw [Nat.toNat_digitChar_of_lt_ten hlt]
      omega
    · cases h
  · rintro ⟨hd, rfl⟩
    have hall : ∀ d < 10, digit? (Nat.digitChar d) = some d := by decide
    exact hall d hd

/-- A text is all digits just if it spells them. -/
theorem digits_eq_all_iff {s : List Char} {ds : List Nat} :
    digits s = (ds, []) ↔ (∀ d ∈ ds, d < 10) ∧ s = ds.map Nat.digitChar := by
  induction s generalizing ds with
  | nil => cases ds <;> simp [digits]
  | cons c s ih =>
    rw [digits]
    cases hc : digit? c with
    | none =>
      cases ds with
      | nil => simp
      | cons d ds =>
        simp only [Prod.mk.injEq, reduceCtorEq, List.forall_mem_cons, List.map_cons,
          List.cons.injEq, false_and, false_iff]
        rintro ⟨⟨hd, -⟩, hcd, -⟩
        rw [digit?_eq_some_iff.mpr ⟨hd, hcd⟩] at hc
        cases hc
    | some e =>
      obtain ⟨he, rfl⟩ := digit?_eq_some_iff.mp hc
      cases ds with
      | nil => simp
      | cons d ds =>
        have htail : digits s = (ds, []) ↔ _ := ih
        rw [Prod.ext_iff] at htail
        simp only [Prod.mk.injEq, List.forall_mem_cons, List.map_cons, List.cons.injEq] at htail ⊢
        constructor
        · rintro ⟨⟨rfl, hds⟩, hrest⟩
          obtain ⟨hlt, hs⟩ := htail.mp ⟨hds, hrest⟩
          exact ⟨⟨he, hlt⟩, rfl, hs⟩
        · rintro ⟨⟨hd, hlt⟩, hed, hs⟩
          have hde : some e = some d := hc.symm.trans (digit?_eq_some_iff.mpr ⟨hd, hed⟩)
          obtain ⟨hds, hrest⟩ := htail.mpr ⟨hlt, hs⟩
          exact ⟨⟨Option.some.inj hde, hds⟩, hrest⟩

/-- The digits of a whole number: there is one, and no zero stands before others. -/
structure Plain (ds : List Nat) : Prop where
  small : ∀ d ∈ ds, d < 10
  filled : ds ≠ []
  canonical : ¬ (ds.head? = some 0 ∧ 1 < ds.length)

theorem le_foldl_digits (m : Nat) (ds : List Nat) : m ≤ ds.foldl (fun n d => 10 * n + d) m := by
  induction ds generalizing m with
  | nil => exact le_rfl
  | cons d ds ih => exact le_trans (by omega) (ih (10 * m + d))

/-- More digits after a number that is not zero. -/
theorem toDigits_append_map {m : Nat} (hm : 0 < m) {ds : List Nat} (hsmall : ∀ d ∈ ds, d < 10) :
    Nat.toDigits 10 m ++ ds.map Nat.digitChar
      = Nat.toDigits 10 (ds.foldl (fun n d => 10 * n + d) m) := by
  induction ds generalizing m with
  | nil => exact List.append_nil _
  | cons d ds ih =>
    obtain ⟨hd, hds⟩ := List.forall_mem_cons.mp hsmall
    calc Nat.toDigits 10 m ++ (d :: ds).map Nat.digitChar
        = (Nat.toDigits 10 m ++ Nat.toDigits 10 d) ++ ds.map Nat.digitChar := by
          rw [Nat.toDigits_of_lt_base hd, List.append_assoc]
          rfl
      _ = Nat.toDigits 10 (10 * m + d) ++ ds.map Nat.digitChar := by
          rw [Nat.toDigits_append_toDigits (by decide) hm hd]
      _ = _ := ih (by omega) hds

theorem Plain.map_digitChar {ds : List Nat} (h : Plain ds) :
    ds.map Nat.digitChar = Nat.toDigits 10 (ofDigits ds) := by
  cases ds with
  | nil => exact absurd rfl h.filled
  | cons d ds =>
    obtain ⟨hd, hds⟩ := List.forall_mem_cons.mp h.small
    have hfold : ofDigits (d :: ds) = ds.foldl (fun n d => 10 * n + d) d := by
      rw [ofDigits, List.foldl_cons, Nat.mul_zero, Nat.zero_add]
    rw [hfold, List.map_cons]
    by_cases hzero : d = 0
    · have hsingle : ds = [] := by
        have hcanonical := h.canonical
        simpa [hzero] using hcanonical
      rw [hsingle, hzero]
      rfl
    · rw [← toDigits_append_map (by omega) hds, Nat.toDigits_of_lt_base hd]
      rfl

/-- Every natural number has its digits. -/
theorem exists_plain (n : Nat) : ∃ ds, Plain ds ∧ ofDigits ds = n := by
  -- `Nat.digits` has no digit for zero
  rcases eq_or_ne n 0 with rfl | hn
  · exact ⟨[0], ⟨by decide, by decide, by decide⟩, rfl⟩
  · refine ⟨(Nat.digits 10 n).reverse, ⟨fun d hd => ?_, ?_, ?_⟩, ?_⟩
    · exact Nat.digits_lt_base (by decide) (List.mem_reverse.mp hd)
    · exact List.reverse_ne_nil_iff.mpr (Nat.digits_ne_nil_iff_ne_zero.mpr hn)
    · rintro ⟨hhead, -⟩
      have hlast := Nat.getLast_digit_ne_zero 10 hn
      rw [List.head?_reverse, List.getLast?_eq_some_getLast (Nat.digits_ne_nil_iff_ne_zero.mpr hn)]
        at hhead
      exact hlast (Option.some.inj hhead)
    · rw [ofDigits, List.foldl_reverse]
      refine Eq.trans ?_ (Nat.ofDigits_digits 10 n)
      rw [Nat.ofDigits_eq_foldr]
      exact congrArg (fun f => List.foldr f 0 _) (funext₂ fun d m => Nat.add_comm _ _)

/-! ## Number texts -/

theorem absorb_eq_all_iff {m : Nat} (hm : m ≤ maxWord) {ds : List Nat} {n : Nat} :
    absorb m ds = (n, []) ↔ ds.foldl (fun n d => 10 * n + d) m = n ∧ n ≤ maxWord := by
  induction ds generalizing m with
  | nil =>
    simp only [absorb, Prod.mk.injEq, and_true, List.foldl_nil]
    exact ⟨fun h => ⟨h, h ▸ hm⟩, And.left⟩
  | cons d ds ih =>
    rw [absorb]
    split
    · next hfits => exact ih hfits
    · next hfull =>
      -- more digits do not make the number smaller again
      simp only [Prod.mk.injEq, reduceCtorEq, and_false, List.foldl_cons, false_iff]
      rintro ⟨rfl, hle⟩
      exact hfull ((le_foldl_digits _ _).trans hle)

theorem ofMagnitude_eq_natural_iff {negative : Bool} {m n : Nat} :
    ofMagnitude negative m = integer n ↔ negative = false ∧ m = n := by
  cases negative with
  | false => simp [ofMagnitude]
  | true =>
    simp only [ofMagnitude, if_true, reduceCtorEq, false_and, iff_false]
    split
    · exact nofun
    · rw [integer.injEq]
      omega

/-- A number text stands for a natural number just if it is made of digits that fit 64 bits. -/
theorem value?_eq_natural_iff {l : Literal} {n : Nat} :
    l.value? = some (integer n) ↔
      l = ⟨false, l.whole, none, none⟩ ∧ ofDigits l.whole = n ∧ n ≤ maxWord := by
  have habsorb : absorb 0 l.whole = (n, []) ↔ ofDigits l.whole = n ∧ n ≤ maxWord :=
    absorb_eq_all_iff (Nat.zero_le maxWord)
  rw [← habsorb]
  obtain ⟨negative, whole, fraction, exponent⟩ := l
  simp only [Literal.value?, Literal.mk.injEq, true_and]
  generalize absorb 0 whole = parts
  obtain ⟨m, dropped⟩ := parts
  dsimp only
  split
  · next hplain =>
    rw [Option.some.injEq, ofMagnitude_eq_natural_iff]
    simp [hplain]
  · next hother =>
    simp only [Option.map_eq_some_iff, reduceCtorEq, and_false, exists_false, false_iff,
      Prod.mk.injEq]
    rintro ⟨⟨-, hfraction, hexponent⟩, -, hdropped⟩
    exact hother ⟨hfraction, hexponent, hdropped⟩

theorem eq_of_fraction?_eq_none {s t : List Char} (h : fraction? s = some (none, t)) : t = s := by
  unfold fraction? at h
  split at h
  · split at h <;> cases h
  · cases h
    rfl

theorem exponentDigits?_ne_none (sign : Int) (s t : List Char) :
    exponentDigits? sign s ≠ some (none, t) := by
  unfold exponentDigits?
  split <;> exact nofun

theorem eq_of_exponent?_eq_none {s t : List Char} (h : exponent? s = some (none, t)) : t = s := by
  unfold exponent? at h
  split at h
  · cases h
    rfl
  · split at h
    · split at h <;> exact absurd h (exponentDigits?_ne_none _ _ _)
    · cases h
      rfl

theorem unsigned?_eq_whole_iff {negative : Bool} {s : List Char} {ds : List Nat} :
    unsigned? negative s = some ⟨negative, ds, none, none⟩ ↔
      Plain ds ∧ s = ds.map Nat.digitChar := by
  have hspell : Plain ds ∧ s = ds.map Nat.digitChar ↔
      digits s = (ds, []) ∧ ¬ (ds = [] ∨ ds.head? = some 0 ∧ 1 < ds.length) := by
    rw [digits_eq_all_iff, not_or]
    exact ⟨fun ⟨⟨hsmall, hfilled, hcanonical⟩, hs⟩ => ⟨⟨hsmall, hs⟩, hfilled, hcanonical⟩,
      fun ⟨⟨hsmall, hs⟩, hfilled, hcanonical⟩ => ⟨⟨hsmall, hfilled, hcanonical⟩, hs⟩⟩
  rw [hspell, unsigned?]
  generalize digits s = parts
  obtain ⟨whole, rest⟩ := parts
  dsimp only
  split
  · next hbad =>
    simp only [reduceCtorEq, Prod.mk.injEq, false_iff]
    rintro ⟨⟨rfl, -⟩, hgood⟩
    exact hgood hbad
  · next hgood =>
    simp only [Option.bind_eq_bind, Option.bind_eq_some_iff, Prod.exists, Prod.mk.injEq]
    constructor
    · rintro ⟨fraction, afterFraction, hfraction, exponent, tail, hexponent, htail⟩
      split at htail
      · next hnil =>
        cases htail
        subst hnil
        obtain rfl := eq_of_exponent?_eq_none hexponent
        obtain rfl := eq_of_fraction?_eq_none hfraction
        exact ⟨⟨rfl, rfl⟩, hgood⟩
      · cases htail
    · rintro ⟨⟨rfl, rfl⟩, -⟩
      exact ⟨none, [], rfl, none, [], rfl, if_pos rfl⟩

theorem negative_of_unsigned? {negative : Bool} {s : List Char} {l : Literal}
    (h : unsigned? negative s = some l) : l.negative = negative := by
  unfold unsigned? at h
  dsimp only at h
  split at h
  · cases h
  · simp only [Option.bind_eq_bind, Option.bind_eq_some_iff, Prod.exists] at h
    obtain ⟨fraction, afterFraction, -, exponent, tail, -, hl⟩ := h
    split at hl
    · cases hl
      rfl
    · cases hl

/-- A text is a whole number without a sign just if it spells its digits. -/
theorem literal?_eq_whole_iff {s : List Char} {ds : List Nat} :
    literal? s = some ⟨false, ds, none, none⟩ ↔ Plain ds ∧ s = ds.map Nat.digitChar := by
  unfold literal?
  split
  · next rest =>
    -- a sign is no digit, and it is kept
    have hsign : ¬ unsigned? true rest = some ⟨false, ds, none, none⟩ := fun h =>
      Bool.false_ne_true (negative_of_unsigned? h)
    have hdigit : ¬ (Plain ds ∧ '-' :: rest = ds.map Nat.digitChar) := by
      rintro ⟨hplain, hs⟩
      have hall : digits ('-' :: rest) = (ds, []) := digits_eq_all_iff.mpr ⟨hplain.small, hs⟩
      exact hplain.filled (congrArg Prod.fst hall).symm
    exact iff_of_false hsign hdigit
  · exact unsigned?_eq_whole_iff

/-- **The number texts of natural numbers** are their digits, within 64 bits. -/
theorem literal?_eq_natural_iff {s : List Char} {n : Nat} :
    (literal? s).bind Literal.value? = some (integer n) ↔
      s = Nat.toDigits 10 n ∧ n ≤ maxWord := by
  simp only [Option.bind_eq_some_iff, value?_eq_natural_iff]
  constructor
  · rintro ⟨l, hl, hwhole, rfl, hword⟩
    obtain ⟨hplain, hs⟩ := literal?_eq_whole_iff.mp (hwhole ▸ hl)
    exact ⟨hs.trans hplain.map_digitChar, hword⟩
  · rintro ⟨rfl, hword⟩
    obtain ⟨ds, hplain, rfl⟩ := exists_plain n
    exact ⟨⟨false, ds, none, none⟩, literal?_eq_whole_iff.mpr ⟨hplain, hplain.map_digitChar.symm⟩,
      rfl, rfl, hword⟩

end Number

/-- **The scalars that are natural numbers** are their digits, within 64 bits. -/
theorem Json.scalar?_eq_natural_iff {s : List Char} {n : Nat} :
    scalar? s = some (.number (some (.integer n))) ↔
      s = Nat.toDigits 10 n ∧ n ≤ Number.maxWord := by
  rw [← Number.literal?_eq_natural_iff]
  unfold scalar?
  split
  · next hnull => simp [hnull, Number.literal?, Number.unsigned?, Number.digits, Number.digit?]
  · split
    · next htrue => simp [htrue, Number.literal?, Number.unsigned?, Number.digits, Number.digit?]
    · split
      · next hfalse =>
        simp [hfalse, Number.literal?, Number.unsigned?, Number.digits, Number.digit?]
      · simp [Option.bind_eq_some_iff]

end AssetSearch
