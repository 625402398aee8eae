/-
# Suggestions become fewer while a word is typed

The word that is being typed is the longest end of the text without a boundary, in lower case, and
the suggestions are the fragments that mention it; for a blank text this is every fragment, since
the word is empty.  A longer word is mentioned less often.  This needs an argument: the lowercase of
a word need not be the beginning of the lowercase of a longer one, because a capital sigma is
lowered by what comes behind it.  But no fragment mentions a sigma.

Key definitions: `Query.Unbroken`, `Query.Mentions`.  Key statements: `suggestions_eq_filter`,
`mentions_of_append`, `suggestions_while_typing`.
-/
import Mathlib.Data.List.DropRight
import AssetSearch.Query.Suggestion
import AssetSearch.Proofs.Text.Lowering

namespace AssetSearch.Query

/-! ## The last word -/

/-- No boundary stands among the characters. -/
def Unbroken (s : List Char) : Prop :=
  ∀ c ∈ s, isBoundary c = false

instance (s : List Char) : Decidable (Unbroken s) :=
  List.decidableBAll _ s

/-- The last word is the longest end of the text without a boundary. -/
theorem lastWord_eq_rtakeWhile (s : List Char) :
    lastWord s = s.rtakeWhile fun c => !isBoundary c :=
  rfl

theorem lastWord_suffix (s : List Char) : lastWord s <:+ s :=
  List.rtakeWhile_suffix _ s

theorem unbroken_lastWord (s : List Char) : Unbroken (lastWord s) := by
  intro c hc
  rw [lastWord_eq_rtakeWhile] at hc
  simpa using List.mem_rtakeWhile_imp hc

/-- Characters that are no boundaries go on with the last word. -/
theorem lastWord_append {t : List Char} (h : Unbroken t) (s : List Char) :
    lastWord (s ++ t) = lastWord s ++ t := by
  have hwhole : t.reverse.takeWhile (fun c => !isBoundary c) = t.reverse := by
    rw [List.takeWhile_eq_self_iff]
    intro c hc
    simpa using h c (List.mem_reverse.1 hc)
  rw [lastWord, List.reverse_append, List.takeWhile_append_of_pos]
  · rw [List.reverse_append, List.reverse_reverse, lastWord]
  · intro c hc
    simpa using h c (List.mem_reverse.1 hc)

/-- A boundary begins a new word. -/
theorem lastWord_append_cons {b : Char} (hb : isBoundary b = true) (s t : List Char) :
    lastWord (s ++ b :: t) = lastWord t := by
  induction t using List.reverseRecOn with
  | nil => simp [lastWord, hb]
  | append_singleton t c ih =>
    rw [← List.cons_append, ← List.append_assoc]
    by_cases hc : isBoundary c = true
    · simp [lastWord, hc]
    · have hsingle : Unbroken [c] := by simpa [Unbroken] using hc
      rw [lastWord_append hsingle, lastWord_append hsingle, ih]

/-- Every other end without a boundary is an end of the last word. -/
theorem suffix_lastWord {s t : List Char} (hsuffix : t <:+ s) (h : Unbroken t) :
    t <:+ lastWord s := by
  obtain ⟨front, rfl⟩ := hsuffix
  rw [lastWord_append h]
  exact List.suffix_append _ t

/-! ## Fragments that mention a word -/

/-- A word stands in a fragment or its description, whatever their case. -/
def Mentions (token : String) (hint : Hint) : Prop :=
  token.toList <:+: (Text.lower hint.label).toList ∨
    token.toList <:+: (Text.lower hint.description).toList

theorem offers_iff {token : String} {hint : Hint} :
    offers token hint = true ↔ Mentions token hint := by
  rw [offers, Bool.or_eq_true, Text.contains, Text.contains, Text.occurs_iff, Text.occurs_iff,
    Mentions]

instance (token : String) : DecidablePred (Mentions token) := fun _ =>
  decidable_of_iff _ offers_iff

theorem mentions_empty (hint : Hint) : Mentions "" hint :=
  .inl List.nil_infix

theorem isBoundary_of_isBlank {c : Char} (h : Text.isBlank c = true) : isBoundary c = true := by
  rw [isBoundary, h]
  rfl

/-- In a blank text there is no word. -/
theorem lastToken_of_blank {text : String} (h : Text.blank text = true) : lastToken text = "" := by
  have hnil : lastWord text.toList = [] := by
    refine List.eq_nil_iff_forall_not_mem.2 fun c hc => ?_
    have hblank := (Text.blank_iff text).1 h c ((lastWord_suffix _).mem hc)
    exact absurd (isBoundary_of_isBlank hblank) (by simp [unbroken_lastWord _ c hc])
  rw [lastToken, hnil]
  rfl

/-- **The rule for suggestions**, which blank texts obey too. -/
theorem suggestions_eq_filter (platform : Platform) (text : String) :
    suggestions platform text
      = platform.hints.filter fun hint => decide (Mentions (lastToken text) hint) := by
  rw [suggestions]
  split
  · next hblank =>
    rw [lastToken_of_blank hblank]
    exact (List.filter_eq_self.2 fun hint _ => decide_eq_true (mentions_empty hint)).symm
  · refine List.filter_congr fun hint _ => ?_
    rw [Bool.eq_iff_iff, offers_iff, decide_eq_true_iff]

/-! ## Longer words -/

/-- No fragment and no description has a sigma. -/
theorem sigmaless_of_mem_hints : ∀ platform : Platform, ∀ hint ∈ platform.hints,
    Text.Sigmaless (hint.label.toList ++ hint.description.toList) := by
  rintro (_ | _ | _ | _) <;> decide +kernel

/-- A word that a fragment mentions has no capital sigma. -/
theorem sigma_notMem_of_mentions {platform : Platform} {hint : Hint}
    (hhint : hint ∈ platform.hints) {s : List Char}
    (h : Mentions (Text.lower (String.ofList s)) hint) : 'Σ' ∉ s := by
  intro hsigma
  obtain ⟨c, hc, hsmall⟩ := Text.exists_sigma_mem_lowerAfter hsigma []
  simp only [Mentions, Text.lower, String.toList_ofList] at h
  -- the small sigma of the word stands in the lowercase of the fragment or of its description
  obtain ⟨d, hd, hsource⟩ : ∃ d ∈ hint.label.toList ++ hint.description.toList, Text.IsSigma d := by
    rcases h with hlabel | hdescription
    · obtain ⟨d, hd, hsource⟩ := Text.exists_sigma_of_mem_lowerAfter (hlabel.mem hc) hsmall
      exact ⟨d, List.mem_append_left _ hd, hsource⟩
    · obtain ⟨d, hd, hsource⟩ := Text.exists_sigma_of_mem_lowerAfter (hdescription.mem hc) hsmall
      exact ⟨d, List.mem_append_right _ hd, hsource⟩
  exact sigmaless_of_mem_hints platform hint hhint d hd hsource

/-- **A fragment that mentions a longer word mentions the shorter one.** -/
theorem mentions_of_append {platform : Platform} {hint : Hint} (hhint : hint ∈ platform.hints)
    {s t : List Char} (h : Mentions (Text.lower (String.ofList (s ++ t))) hint) :
    Mentions (Text.lower (String.ofList s)) hint := by
  have hsigma : 'Σ' ∉ s := fun hs =>
    sigma_notMem_of_mentions hhint h (List.mem_append_left t hs)
  have hprefix := Text.lowerChars_prefix_append hsigma t
  simp only [Mentions, Text.lower, String.toList_ofList] at h ⊢
  exact h.imp hprefix.isInfix.trans hprefix.isInfix.trans

/-- A text that goes on with its last word has no suggestions that it had not before. -/
theorem suggestions_append_sublist (platform : Platform) (text : String) {s : String}
    (h : Unbroken s.toList) :
    (suggestions platform (text ++ s)).Sublist (suggestions platform text) := by
  have htwice : suggestions platform (text ++ s) = (suggestions platform text).filter
      fun hint => decide (Mentions (lastToken (text ++ s)) hint) := by
    rw [suggestions_eq_filter, suggestions_eq_filter, List.filter_filter]
    refine List.filter_congr fun hint hhint => ?_
    rw [lastToken, String.toList_append, lastWord_append h, lastToken]
    have hshorter := mentions_of_append hhint (s := lastWord text.toList) (t := s.toList)
    simpa using hshorter
  rw [htwice]
  exact List.filter_sublist

/-- **Suggestions while a query is typed.**  The word that is looked for is the longest end of the
text without white space and operators, in lower case.  The suggestions are the fragments that
mention it, in the order of the platform, and all of them while the text is blank; and they only
become fewer while the word goes on. -/
theorem suggestions_while_typing (platform : Platform) (text : String) :
    (∃ word, word <:+ text.toList ∧ Unbroken word ∧
      (∀ other, other <:+ text.toList → Unbroken other → other <:+ word) ∧
      lastToken text = Text.lower (String.ofList word)) ∧
    suggestions platform text
      = platform.hints.filter (fun hint => decide (Mentions (lastToken text) hint)) ∧
    (Text.blank text = true → suggestions platform text = platform.hints) ∧
    ∀ s : String, Unbroken s.toList →
      (suggestions platform (text ++ s)).Sublist (suggestions platform text) := by
  refine ⟨⟨lastWord text.toList, lastWord_suffix _, unbroken_lastWord _, ?_, rfl⟩,
    suggestions_eq_filter platform text, ?_,
    fun s hs => suggestions_append_sublist platform text hs⟩
  · intro other hsuffix hother
    exact suffix_lastWord hsuffix hother
  · intro hblank
    rw [suggestions, if_pos hblank]

/-- A word that begins behind an operator and goes on. -/
theorem suggestions_while_typing_city :
    let text := "country=\"CN\" && (C"
    Unbroken "IT".toList ∧ lastToken text = "c" ∧ lastToken (text ++ "IT") = "cit" ∧
      suggestions .fofa text = Platform.fofaHints.filter (fun hint => decide (Mentions "c" hint)) ∧
      (suggestions .fofa (text ++ "IT")).Sublist (suggestions .fofa text) := by
  intro text
  obtain ⟨-, hrule, -, hnarrow⟩ := suggestions_while_typing .fofa text
  have hword : Unbroken "IT".toList := by decide
  have htoken : lastToken text = "c" := by decide +kernel
  rw [htoken] at hrule
  exact ⟨hword, htoken, by decide +kernel, hrule, hnarrow "IT" hword⟩

end AssetSearch.Query
