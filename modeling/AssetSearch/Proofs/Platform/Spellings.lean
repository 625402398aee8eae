/-
# The spellings of a platform's key

A word of small letters is the lowercase of just those texts in which every letter is written as it
is or as a capital; for the letter k there is a third way, the Kelvin sign.  So these are the
spellings in which the key of a platform is read, with blanks around them.

Key definitions: `Text.WrittenAs`, `Platform.SpelledBy`.  Key statements:
`Text.lowered_eq_singleton_iff`, `Text.lowerChars_eq_iff`, `Platform.parse_eq_ok_iff_spelledBy`.
-/
import Mathlib.Data.List.Forall2
import AssetSearch.Proofs.Keys.Lines
import AssetSearch.Proofs.Text.Lowering
import AssetSearch.Proofs.Translation.Targets

namespace AssetSearch

namespace Text

/-! ## Letters -/

/-- The sign of the unit of temperature. -/
def kelvinSign : Char :=
  Char.ofNat 0x212A

/-- A small letter is written as some character. -/
def WrittenAs (letter c : Char) : Prop :=
  c = letter ∨ c = letter.toUpper ∨ (letter = 'k' ∧ c = kelvinSign)

instance : DecidableRel WrittenAs := fun letter c =>
  inferInstanceAs (Decidable (c = letter ∨ c = letter.toUpper ∨ (letter = 'k' ∧ c = kelvinSign)))

theorem isLower_iff {c : Char} : c.isLower = true ↔ 97 ≤ c.toNat ∧ c.toNat < 123 := by
  have hrange : c.isLower = (decide (97 ≤ c.val) && decide (c.val ≤ 122)) := rfl
  rw [hrange, Bool.and_eq_true, decide_eq_true_iff, decide_eq_true_iff, UInt32.le_iff_toNat_le,
    UInt32.le_iff_toNat_le]
  exact and_congr_right' Nat.lt_succ_iff.symm

/-- The letters by their codes: a capital stands 32 places before the small letter that it is
lowered to, and a small letter is lowered to itself. -/
theorem lowered_code : ∀ n < 123, 97 ≤ n →
    lowered (Char.ofNat n) = [Char.ofNat n] ∧
      lowered (Char.ofNat n).toUpper = [Char.ofNat n] ∧
      (Char.ofNat n).toUpper.toNat + 32 = n := by
  decide

theorem lowered_letter {c : Char} (h : c.isLower = true) :
    lowered c = [c] ∧ lowered c.toUpper = [c] ∧ c.toUpper.toNat + 32 = c.toNat := by
  obtain ⟨hfirst, hlast⟩ := isLower_iff.1 h
  have hcode := lowered_code c.toNat hlast hfirst
  rwa [Char.ofNat_toNat] at hcode

/-- The runs that reach a small letter are that of the capital letters and the Kelvin sign. -/
theorem offset_of_letter : ∀ run ∈ lowercaseRuns,
    run.first + run.offset < 123 → 97 ≤ run.last + run.offset →
      run.offset = 32 ∨ (run.first = 0x212A ∧ run.last = 0x212A ∧ run.offset = 107 - 0x212A) := by
  decide +kernel

/-- **Which characters are lowered to a small letter.** -/
theorem lowered_eq_singleton_iff {letter c : Char} (h : letter.isLower = true) :
    lowered c = [letter] ↔ WrittenAs letter c := by
  obtain ⟨hsmall, hcapital, hcode⟩ := lowered_letter h
  obtain ⟨hfirst, hlast⟩ := isLower_iff.1 h
  constructor
  · intro hc
    rw [lowered] at hc
    split at hc
    · exact absurd (congrArg List.length hc) (by simp)
    · have hnonnull : letter ≠ Char.ofNat 0 := by
        rintro rfl
        exact absurd h (by decide)
      have hreached : lowerIn c.toNat lowercaseRuns = letter.toNat :=
        eq_toNat_of_ofNat_eq (List.singleton_inj.1 hc) hnonnull
      obtain hsame | ⟨run, hrun, hbegin, hend, hmoved⟩ := lowerIn_cases c.toNat lowercaseRuns
      · exact .inl (Char.toNat_inj.1 (hsame.symm.trans hreached))
      · obtain hoffset | ⟨hfirst', hlast', hoffset⟩ :=
          offset_of_letter run hrun (by omega) (by omega)
        · exact .inr (.inl (Char.toNat_inj.1 (by omega)))
        · -- the run has one member only
          have hkelvin : kelvinSign.toNat = 0x212A := by decide
          have hk : 'k'.toNat = 107 := by decide
          exact .inr (.inr ⟨Char.toNat_inj.1 (by omega), Char.toNat_inj.1 (by omega)⟩)
  · rintro (rfl | rfl | ⟨rfl, rfl⟩)
    · exact hsmall
    · exact hcapital
    · decide

theorem isBlank_eq_false_of_lt {c : Char} (hfirst : 0x20 < c.toNat) (hlast : c.toNat < 0x85) :
    isBlank c = false := by
  simp only [isBlank, Bool.or_eq_false_iff, Bool.and_eq_false_iff, decide_eq_false_iff_not,
    beq_eq_false_iff_ne]
  omega

/-- However a letter is written, it is not a blank. -/
theorem isBlank_of_writtenAs {letter c : Char} (h : letter.isLower = true)
    (hc : WrittenAs letter c) : isBlank c = false := by
  obtain ⟨hfirst, hlast⟩ := isLower_iff.1 h
  rcases hc with rfl | rfl | ⟨rfl, rfl⟩
  · exact isBlank_eq_false_of_lt (by omega) (by omega)
  · obtain ⟨-, -, hcode⟩ := lowered_letter h
    exact isBlank_eq_false_of_lt (by omega) (by omega)
  · decide

theorem strip_eq_self {s : List Char} (h : ∀ c ∈ s, isBlank c = false) : strip s = s := by
  have hstart : stripStart s = s := stripStart_eq_self fun c hc => h c (List.mem_of_head? hc)
  have hend : stripStart s.reverse = s.reverse :=
    stripStart_eq_self fun c hc => h c (List.mem_reverse.1 (List.mem_of_head? hc))
  rw [strip, hstart, stripEnd, hend, List.reverse_reverse]

/-- A character is lowered to one character, unless it is the capital i with a dot. -/
theorem lowered_cases (c : Char) :
    lowered c = ['i', Char.ofNat 0x307] ∨ ∃ d, lowered c = [d] := by
  rw [lowered]
  split
  · exact .inl rfl
  · exact .inr ⟨_, rfl⟩

/-! ## Words -/

/-- Letter by letter, without a look at the sigmas. -/
theorem flatMap_lowered_eq_iff {word s : List Char} (h : ∀ c ∈ word, c.isLower = true) :
    s.flatMap lowered = word ↔ List.Forall₂ WrittenAs word s := by
  induction s generalizing word with
  | nil =>
    rw [List.flatMap_nil, List.forall₂_nil_right_iff]
    exact eq_comm
  | cons c s ih =>
    rw [List.flatMap_cons, List.forall₂_cons_right_iff]
    constructor
    · rintro rfl
      rcases lowered_cases c with hdotted | ⟨letter, hletter⟩
      · exact absurd (h (Char.ofNat 0x307) (by simp [hdotted])) (by decide)
      · rw [hletter] at h ⊢
        refine ⟨letter, s.flatMap lowered, ?_, ?_, rfl⟩
        · exact (lowered_eq_singleton_iff (h letter List.mem_cons_self)).1 hletter
        · exact (ih fun d hd => h d (List.mem_cons_of_mem letter hd)).1 rfl
    · rintro ⟨letter, rest, hletter, hrest, rfl⟩
      rw [(lowered_eq_singleton_iff (h letter List.mem_cons_self)).2 hletter,
        (ih fun d hd => h d (List.mem_cons_of_mem letter hd)).2 hrest]
      rfl

theorem isBlank_of_mem_written {word s : List Char} (h : ∀ c ∈ word, c.isLower = true)
    (hs : List.Forall₂ WrittenAs word s) : ∀ c ∈ s, isBlank c = false := by
  induction hs with
  | nil => exact nofun
  | @cons letter c word s hletter _ ih =>
    rw [List.forall_mem_cons] at h
    exact List.forall_mem_cons.2 ⟨isBlank_of_writtenAs h.1 hletter, ih h.2⟩

/-- **Which texts have a word as their lowercase.**  No sigma stands in the word, so none stands in
the text. -/
theorem lowerChars_eq_iff {word s : List Char} (h : ∀ c ∈ word, c.isLower = true) :
    lowerChars s = word ↔ List.Forall₂ WrittenAs word s := by
  rw [← flatMap_lowered_eq_iff h]
  constructor
  · intro hlower
    have hsigma : 'Σ' ∉ s := by
      intro hmem
      obtain ⟨c, hc, hsmall⟩ := exists_sigma_mem_lowerAfter hmem []
      have hletter := h c (hlower ▸ hc)
      rcases hsmall with rfl | rfl <;> exact absurd hletter (by decide)
    rw [← hlower, lowerChars_eq_flatMap hsigma]
  · intro hlower
    have hsigma : 'Σ' ∉ s := by
      intro hmem
      have hmoved : 'σ' ∈ lowered 'Σ' := by decide
      exact absurd (h 'σ' (hlower ▸ List.mem_flatMap_of_mem hmem hmoved)) (by decide)
    rw [← hlower, lowerChars_eq_flatMap hsigma]

end Text

/-! ## Keys -/

namespace Platform

/-- A text spells the key of a platform: it is the key in small and capital letters, a k perhaps as
the Kelvin sign, with blanks around it. -/
def SpelledBy (p : Platform) (text : String) : Prop :=
  ∃ before word after, text.toList = before ++ word ++ after ∧
    (∀ c ∈ before, Text.isBlank c = true) ∧ (∀ c ∈ after, Text.isBlank c = true) ∧
    List.Forall₂ Text.WrittenAs p.key.toList word

theorem isLower_of_mem_key {p : Platform} : ∀ c ∈ p.key.toList, c.isLower = true := by
  have hall : p.key.toList.all Char.isLower = true := by cases p <;> decide
  exact List.all_eq_true.1 hall

/-- The key itself is one of its spellings. -/
theorem spelledBy_key (p : Platform) : p.SpelledBy p.key := by
  refine ⟨[], p.key.toList, [], by simp, nofun, nofun, ?_⟩
  exact List.forall₂_same.2 fun c _ => .inl rfl

/-- A text names a platform just if it spells the platform's key. -/
theorem namedBy_iff_spelledBy {p : Platform} {text : String} :
    p.NamedBy text ↔ p.SpelledBy text := by
  have hnamed : p.NamedBy text ↔
      List.Forall₂ Text.WrittenAs p.key.toList (Text.strip text.toList) := by
    rw [← Text.lowerChars_eq_iff isLower_of_mem_key, NamedBy, Text.lower, Text.trim,
      String.toList_ofList, ← String.toList_inj, String.toList_ofList]
  rw [hnamed]
  constructor
  · intro h
    obtain ⟨before, after, htext, hbefore, hafter⟩ := Text.exists_strip text.toList
    exact ⟨before, _, after, htext, hbefore, hafter, h⟩
  · rintro ⟨before, word, after, htext, hbefore, hafter, hword⟩
    rwa [htext, Text.strip_append_right hafter, Text.strip_append_left hbefore,
      Text.strip_eq_self (Text.isBlank_of_mem_written isLower_of_mem_key hword)]

/-- **Which platform a text is read as**: the one whose key it spells. -/
theorem parse_eq_ok_iff_spelledBy {text : String} {p : Platform} :
    parse text = .ok p ↔ p.SpelledBy text :=
  parse_eq_ok_iff.trans namedBy_iff_spelledBy

/-- Capital letters, blanks and the Kelvin sign are read; other signs are not. -/
example : parse "\t Qua\u212AE " = .ok .quake ∧
    parse "qu\u00E4ke" = .error (.unknownPlatform "qu\u00E4ke") := by
  decide +kernel

end Platform

end AssetSearch
