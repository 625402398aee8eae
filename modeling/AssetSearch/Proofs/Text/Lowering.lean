/-
# The lowercase of a text that goes on

A character is lowered without regard to its neighbours, except for the capital sigma.  So the
lowercase of a text without one is kept when the text goes on.  A capital sigma leaves a small one
behind, of whichever form; and a small sigma in the lowercase comes from some sigma in the text.

Key definitions: `IsSigma`, `Sigmaless`.  Key statements: `lowerChars_prefix_append`,
`exists_sigma_mem_lowerAfter` and `exists_sigma_of_mem_lowerAfter`.
-/
import AssetSearch.Text.Lowercase

namespace AssetSearch.Text

/-! ## Without a capital sigma -/

/-- Characters other than the capital sigma are lowered one by one. -/
theorem lowerAfter_append {s : List Char} (h : 'Σ' ∉ s) (before t : List Char) :
    lowerAfter before (s ++ t) = s.flatMap lowered ++ lowerAfter (s.reverse ++ before) t := by
  induction s generalizing before with
  | nil => rfl
  | cons c s ih =>
    have hc : c ≠ 'Σ' := (List.ne_of_not_mem_cons h).symm
    have hs : 'Σ' ∉ s := List.not_mem_of_not_mem_cons h
    rw [List.cons_append, lowerAfter, if_neg hc, ih hs, List.flatMap_cons, List.reverse_cons,
      List.append_assoc, List.append_assoc]
    rfl

theorem lowerChars_eq_flatMap {s : List Char} (h : 'Σ' ∉ s) :
    lowerChars s = s.flatMap lowered := by
  have hlower := lowerAfter_append h [] []
  rwa [List.append_nil, lowerAfter, List.append_nil] at hlower

/-- **The lowercase is kept when the text goes on**, if no capital sigma stands in it. -/
theorem lowerChars_prefix_append {s : List Char} (h : 'Σ' ∉ s) (t : List Char) :
    lowerChars s <+: lowerChars (s ++ t) := by
  rw [lowerChars_eq_flatMap h, lowerChars, lowerAfter_append h]
  exact List.prefix_append _ _

/-- With a capital sigma it need not be kept: a final sigma turns into a medial one. -/
example : lowerChars ['Ο', 'Σ'] = ['ο', 'ς'] ∧ lowerChars ['Ο', 'Σ', 'Α'] = ['ο', 'σ', 'α'] := by
  decide

/-! ## The sigmas -/

/-- The capital sigma, the small one and the final one. -/
def IsSigma (c : Char) : Prop :=
  c = 'Σ' ∨ c = 'σ' ∨ c = 'ς'

instance : DecidablePred IsSigma := fun c =>
  inferInstanceAs (Decidable (c = 'Σ' ∨ c = 'σ' ∨ c = 'ς'))

/-- No sigma stands among the characters. -/
def Sigmaless (s : List Char) : Prop :=
  ∀ c ∈ s, ¬ IsSigma c

instance (s : List Char) : Decidable (Sigmaless s) :=
  List.decidableBAll _ s

/-- The capital sigma becomes one of the two small ones, wherever it stands. -/
theorem exists_sigma_mem_lowerAfter {s : List Char} (h : 'Σ' ∈ s) (before : List Char) :
    ∃ c ∈ lowerAfter before s, c = 'σ' ∨ c = 'ς' := by
  induction s generalizing before with
  | nil => cases h
  | cons c s ih =>
    rw [lowerAfter]
    rcases List.mem_cons.1 h with rfl | hs
    · refine ⟨_, List.mem_append_left _ (List.mem_singleton_self _), ?_⟩
      split
      · exact .inr rfl
      · exact .inl rfl
    · obtain ⟨d, hd, hsigma⟩ := ih hs (c :: before)
      exact ⟨d, List.mem_append_right _ hd, hsigma⟩

/-- A code point is lowered by the offset of a run that it lies in, or stays as it is. -/
theorem lowerIn_cases (n : Nat) (runs : List CaseRun) :
    lowerIn n runs = n ∨ ∃ run ∈ runs, run.first ≤ n ∧ n ≤ run.last ∧
      lowerIn n runs = (n + run.offset).toNat := by
  induction runs with
  | nil => exact .inl rfl
  | cons run rest ih =>
    rw [lowerIn]
    split
    · exact .inl rfl
    · next hfirst =>
      split
      · next hlast =>
        split
        · exact .inr ⟨run, List.mem_cons_self, Nat.le_of_not_lt hfirst, hlast, rfl⟩
        · exact .inl rfl
      · rcases ih with hsame | ⟨other, hmem, hother⟩
        · exact .inl hsame
        · exact .inr ⟨other, List.mem_cons_of_mem run hmem, hother⟩

/-- The run that reaches `σ` reaches it from the capital one, and no run reaches `ς`. -/
theorem offset_of_sigma : ∀ run ∈ lowercaseRuns,
    (run.first + run.offset ≤ 'σ'.toNat → 'σ'.toNat ≤ run.last + run.offset →
      run.offset = 'σ'.toNat - 'Σ'.toNat) ∧
    (run.first + run.offset ≤ 'ς'.toNat → ¬ 'ς'.toNat ≤ run.last + run.offset) := by
  decide +kernel

/-- Only the null character stands for code points that are none. -/
theorem eq_toNat_of_ofNat_eq {n : Nat} {c : Char} (h : Char.ofNat n = c) (hc : c ≠ Char.ofNat 0) :
    n = c.toNat := by
  by_cases hvalid : n.isValidChar
  · rw [Char.ofNat, dif_pos hvalid] at h
    rw [← h]
    rfl
  · rw [Char.ofNat, dif_neg hvalid] at h
    exact absurd h.symm hc

/-- Only a sigma is lowered to a sigma. -/
theorem isSigma_of_mem_lowered {c d : Char} (hd : d ∈ lowered c) (h : d = 'σ' ∨ d = 'ς') :
    IsSigma c := by
  rw [lowered] at hd
  split at hd
  · rcases h with rfl | rfl <;> exact absurd hd (by decide)
  · have hcode : lowerIn c.toNat lowercaseRuns = d.toNat :=
      eq_toNat_of_ofNat_eq (List.mem_singleton.1 hd).symm (by rcases h with rfl | rfl <;> decide)
    obtain hsame | ⟨run, hrun, hfirst, hlast, hmoved⟩ := lowerIn_cases c.toNat lowercaseRuns
    · rw [Char.toNat_inj.1 (hsame.symm.trans hcode)]
      exact .inr h
    · -- the code of a sigma is positive, so the move stays above zero
      obtain ⟨hmedial, hfinal⟩ := offset_of_sigma run hrun
      rcases h with rfl | rfl
      · have hpos : 0 < 'σ'.toNat := by decide
        have hoffset := hmedial (by omega) (by omega)
        exact .inl (Char.toNat_inj.1 (by omega))
      · have hpos : 0 < 'ς'.toNat := by decide
        exact absurd (by omega) (hfinal (by omega))

/-- Every sigma in the lowercase of a text comes from one in the text. -/
theorem exists_sigma_of_mem_lowerAfter {before s : List Char} {d : Char}
    (hd : d ∈ lowerAfter before s) (h : d = 'σ' ∨ d = 'ς') : ∃ c ∈ s, IsSigma c := by
  induction s generalizing before with
  | nil => cases hd
  | cons c s ih =>
    rw [lowerAfter, List.mem_append] at hd
    rcases hd with hhere | hlater
    · refine ⟨c, List.mem_cons_self, ?_⟩
      split at hhere
      · next hcapital => exact .inl hcapital
      · exact isSigma_of_mem_lowered hhere h
    · obtain ⟨other, hother, hsigma⟩ := ih hlater
      exact ⟨other, List.mem_cons_of_mem c hother, hsigma⟩

end AssetSearch.Text
