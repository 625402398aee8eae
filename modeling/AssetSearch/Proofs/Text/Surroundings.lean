/-
# The lowercase of a text within another one

What surrounds a text changes its lowercase only where the text has a capital sigma, and there only
if the surroundings decide whether a word ends: behind a letter if all that follows in the text is
ignored, and without anything in front that counts if no letter follows.  A text without such a
sigma keeps its lowercase within every other one; and no other text does.

Key definitions: `lowerBetween`, `SameSigmas`, `Settled`, `Steady`.  Key statements:
`lowerBetween_infix_lowerChars`, `lowerBetween_sigma`, `SameSigmas.infix_lowerChars`, `steady_iff`.
-/
import AssetSearch.Proofs.Text.Lowering

namespace AssetSearch.Text

/-! ## Parts of a text -/

/-- The lowercase of a part of a text: `before` stands in front of it, nearest character first, and
`after` behind it. -/
def lowerBetween (before after : List Char) : List Char → List Char
  | [] => []
  | c :: rest =>
    (if c = 'Σ' then [if endsWord before (rest ++ after) then 'ς' else 'σ'] else lowered c) ++
      lowerBetween (c :: before) after rest

theorem lowerAfter_append_eq (before s t : List Char) :
    lowerAfter before (s ++ t)
      = lowerBetween before t s ++ lowerAfter (s.reverse ++ before) t := by
  induction s generalizing before with
  | nil => rfl
  | cons c s ih =>
    rw [List.cons_append, lowerAfter, lowerBetween, ih, List.reverse_cons, List.append_assoc,
      List.append_assoc]
    rfl

/-- A text that stands alone has nothing around it. -/
theorem lowerChars_eq_lowerBetween (s : List Char) : lowerChars s = lowerBetween [] [] s := by
  have happend := lowerAfter_append_eq [] s []
  rwa [List.append_nil, lowerAfter, List.append_nil] at happend

/-- Each of two parts has the other one around it. -/
theorem lowerBetween_append (before after s t : List Char) :
    lowerBetween before after (s ++ t)
      = lowerBetween before (t ++ after) s ++ lowerBetween (s.reverse ++ before) after t := by
  induction s generalizing before with
  | nil => rfl
  | cons c s ih =>
    rw [List.cons_append, lowerBetween, lowerBetween, ih, List.reverse_cons, List.append_assoc,
      List.append_assoc, List.append_assoc]
    rfl

/-- The lowercase of a text holds that of each part in its place. -/
theorem lowerBetween_infix_lowerChars (left s right : List Char) :
    lowerBetween left.reverse right s <:+: lowerChars (left ++ s ++ right) := by
  refine ⟨lowerBetween [] (s ++ right) left, lowerAfter (left ++ s).reverse right, ?_⟩
  rw [lowerChars, lowerAfter_append_eq, lowerBetween_append, List.append_nil, List.append_nil]

/-- Surroundings in which the same sigmas end words give the same lowercase. -/
theorem lowerBetween_congr {before after before' after' s : List Char}
    (h : ∀ front back, s = front ++ 'Σ' :: back →
      endsWord (front.reverse ++ before) (back ++ after)
        = endsWord (front.reverse ++ before') (back ++ after')) :
    lowerBetween before after s = lowerBetween before' after' s := by
  induction s generalizing before before' with
  | nil => rfl
  | cons c s ih =>
    have hrest : lowerBetween (c :: before) after s = lowerBetween (c :: before') after' s := by
      refine ih fun front back hs => ?_
      simpa using h (c :: front) back (by rw [hs]; rfl)
    rw [lowerBetween, lowerBetween, hrest]
    split
    · next hc =>
      have hends : endsWord before (s ++ after) = endsWord before' (s ++ after') :=
        h [] s (by rw [hc]; rfl)
      rw [hends]
    · rfl

/-! ## What is looked through -/

/-- Case ignores all of the characters. -/
def Ignored (s : List Char) : Prop :=
  ∀ c ∈ s, isCaseIgnorable c = true

instance (s : List Char) : Decidable (Ignored s) :=
  List.decidableBAll _ s

/-- A text that is ignored is looked through. -/
theorem Ignored.meetsCased_append {s : List Char} (h : Ignored s) (t : List Char) :
    meetsCased (s ++ t) = meetsCased t := by
  rw [meetsCased, List.dropWhile_append_of_pos h]
  rfl

theorem Ignored.meetsCased_eq {s : List Char} (h : Ignored s) : meetsCased s = false := by
  have happend := h.meetsCased_append []
  rwa [List.append_nil] at happend

/-- Nothing is seen behind a character that is not ignored. -/
theorem meetsCased_append_of_not_ignored {s : List Char} (h : ¬ Ignored s) (t : List Char) :
    meetsCased (s ++ t) = meetsCased s := by
  induction s with
  | nil => exact absurd (fun c hc => absurd hc List.not_mem_nil) h
  | cons c s ih =>
    by_cases hc : isCaseIgnorable c = true
    · have hs : ¬ Ignored s := fun hs => h (List.forall_mem_cons.2 ⟨hc, hs⟩)
      have hskip : ∀ rest, meetsCased (c :: rest) = meetsCased rest := fun rest =>
        Ignored.meetsCased_append (s := [c]) (by simpa [Ignored] using hc) rest
      rw [List.cons_append, hskip, hskip, ih hs]
    · simp only [meetsCased, List.cons_append, List.dropWhile_cons_of_neg hc]

theorem sigma_notMem_of_ignored {s : List Char} (h : Ignored s) : 'Σ' ∉ s :=
  fun hmem => absurd (h 'Σ' hmem) (by decide)

theorem not_ignored_of_sigma_mem {s : List Char} (h : 'Σ' ∈ s) : ¬ Ignored s :=
  fun hs => sigma_notMem_of_ignored hs h

/-! ## A sigma in the middle -/

/-- Without a capital sigma the surroundings do not matter. -/
theorem lowerBetween_of_sigma_notMem {s : List Char} (h : 'Σ' ∉ s)
    (before after before' after' : List Char) :
    lowerBetween before after s = lowerBetween before' after' s := by
  refine lowerBetween_congr fun front back hs => ?_
  exact absurd (hs ▸ List.mem_append_right front List.mem_cons_self) h

/-- A capital sigma hides what stands behind it from what stands in front of it. -/
theorem lowerBetween_before_sigma (before t s : List Char) :
    lowerBetween before ('Σ' :: t) s = lowerBetween before ['Σ'] s := by
  refine lowerBetween_congr fun front back _ => ?_
  have hsigma : ¬ Ignored (back ++ ['Σ']) :=
    not_ignored_of_sigma_mem (List.mem_append_right back List.mem_cons_self)
  have hseen := meetsCased_append_of_not_ignored hsigma t
  rw [List.append_assoc] at hseen
  rw [endsWord, endsWord, ← hseen]
  rfl

/-- A capital sigma hides what stands in front of it from what stands behind it. -/
theorem lowerBetween_after_sigma (before after s : List Char) :
    lowerBetween ('Σ' :: before) after s = lowerBetween ['Σ'] after s := by
  refine lowerBetween_congr fun front back _ => ?_
  have hsigma : ¬ Ignored (front.reverse ++ ['Σ']) :=
    not_ignored_of_sigma_mem (List.mem_append_right _ List.mem_cons_self)
  have hseen := meetsCased_append_of_not_ignored hsigma before
  rw [List.append_assoc] at hseen
  rw [endsWord, endsWord, ← hseen]
  rfl

/-- **The lowercase around a capital sigma**: of all that surrounds the text, the front sees only
what stands before it, the back only what stands behind it, and the sigma both. -/
theorem lowerBetween_sigma (before after front back : List Char) :
    lowerBetween before after (front ++ 'Σ' :: back)
      = lowerBetween before ['Σ'] front ++
        (if endsWord (front.reverse ++ before) (back ++ after) then 'ς' else 'σ') ::
          lowerBetween ['Σ'] after back := by
  rw [lowerBetween_append, lowerBetween, if_pos rfl, List.cons_append, lowerBetween_before_sigma,
    lowerBetween_after_sigma]
  rfl

theorem lowerChars_sigma (front back : List Char) :
    lowerChars (front ++ 'Σ' :: back)
      = lowerBetween [] ['Σ'] front ++
        (if endsWord front.reverse back then 'ς' else 'σ') :: lowerBetween ['Σ'] [] back := by
  rw [lowerChars_eq_lowerBetween, lowerBetween_sigma, List.append_nil, List.append_nil]

/-! ## Sigmas that stay as they are -/

/-- Between `left` and `right`, every capital sigma of a text ends a word just if it does so in the
text alone. -/
def SameSigmas (left right s : List Char) : Prop :=
  ∀ front back, s = front ++ 'Σ' :: back →
    endsWord (front.reverse ++ left.reverse) (back ++ right) = endsWord front.reverse back

/-- A text with the same sigmas keeps its lowercase. -/
theorem SameSigmas.infix_lowerChars {left right s : List Char} (h : SameSigmas left right s) :
    lowerChars s <:+: lowerChars (left ++ s ++ right) := by
  have hsame : lowerBetween left.reverse right s = lowerChars s := by
    rw [lowerChars_eq_lowerBetween]
    exact lowerBetween_congr fun front back hs => by simpa using h front back hs
  exact hsame ▸ lowerBetween_infix_lowerChars left s right

/-- A capital sigma between `before`, nearest character first, and `after` for which nothing else
matters: behind a letter something follows that is not ignored, and if all in front of it is
ignored, a letter follows. -/
structure Settled (before after : List Char) : Prop where
  behind_letter : meetsCased before = true → ¬ Ignored after
  behind_nothing : Ignored before → meetsCased after = true

instance (before after : List Char) : Decidable (Settled before after) :=
  decidable_of_iff ((meetsCased before = true → ¬ Ignored after) ∧
    (Ignored before → meetsCased after = true)) ⟨fun h => ⟨h.1, h.2⟩, fun h => ⟨h.1, h.2⟩⟩

/-- Nothing else matters for a sigma that is settled. -/
theorem Settled.endsWord_eq {before after : List Char} (h : Settled before after)
    (left right : List Char) :
    endsWord (before ++ left) (after ++ right) = endsWord before after := by
  by_cases hbefore : Ignored before
  · -- a letter follows, so that the word goes on in any case
    have hletter := h.behind_nothing hbefore
    have hafter : ¬ Ignored after := fun hafter => by
      rw [hafter.meetsCased_eq] at hletter
      cases hletter
    rw [endsWord, endsWord, meetsCased_append_of_not_ignored hafter, hletter]
    simp
  · rw [endsWord, endsWord, meetsCased_append_of_not_ignored hbefore]
    cases hletter : meetsCased before with
    | false => rfl
    | true => rw [meetsCased_append_of_not_ignored (h.behind_letter hletter)]

/-- All capital sigmas of a text are settled by the text itself. -/
def Steady (s : List Char) : Prop :=
  ∀ front back, s = front ++ 'Σ' :: back → Settled front.reverse back

/-- It is enough to look at the places of the text one by one. -/
theorem forall_lt_settled_iff (s : List Char) :
    (∀ i < s.length, s[i]? = some 'Σ' → Settled (s.take i).reverse (s.drop (i + 1))) ↔
      Steady s := by
  constructor
  · rintro h front back rfl
    have hplace := h front.length (by simp) (by simp)
    simpa using hplace
  · intro h i hi hsigma
    refine h _ _ ?_
    rw [List.getElem?_eq_getElem hi, Option.some.injEq] at hsigma
    rw [← hsigma, List.getElem_cons_drop, List.take_append_drop]

instance (s : List Char) : Decidable (Steady s) :=
  decidable_of_iff _ (forall_lt_settled_iff s)

theorem Steady.sameSigmas {s : List Char} (h : Steady s) (left right : List Char) :
    SameSigmas left right s :=
  fun front back hs => (h front back hs).endsWord_eq left.reverse right

theorem not_infix_of_count_lt {s t : List Char} (c : Char) (h : t.count c < s.count c) :
    ¬ s <:+: t :=
  fun hpart => absurd (hpart.sublist.count_le c) (Nat.not_le_of_lt h)

/-- Behind a letter and with nothing that counts behind it, a sigma loses its final form when a
letter follows. -/
theorem not_infix_of_behind_letter {front back : List Char}
    (hfront : meetsCased front.reverse = true) (hback : Ignored back) :
    ¬ lowerChars (front ++ 'Σ' :: back) <:+: lowerChars (front ++ 'Σ' :: back ++ ['a']) := by
  have hletter : meetsCased ['a'] = true := by decide
  have halone : endsWord front.reverse back = true := by
    rw [endsWord, hfront, hback.meetsCased_eq]
    rfl
  have hgoes : endsWord front.reverse (back ++ ['a']) = false := by
    rw [endsWord, hback.meetsCased_append, hletter, hfront]
    rfl
  have hshort : lowerChars (front ++ 'Σ' :: back)
      = lowerBetween [] ['Σ'] front ++ 'ς' :: lowerBetween ['Σ'] [] back := by
    rw [lowerChars_sigma, halone]
    rfl
  have hlong : lowerChars (front ++ 'Σ' :: back ++ ['a'])
      = lowerBetween [] ['Σ'] front ++ 'σ' :: lowerBetween ['Σ'] [] back ++ ['a'] := by
    rw [lowerChars, lowerAfter_append_eq, lowerBetween_sigma, List.append_nil, hgoes,
      lowerBetween_of_sigma_notMem (sigma_notMem_of_ignored hback) ['Σ'] ['a'] ['Σ'] []]
    rfl
  -- one final sigma is missing
  refine not_infix_of_count_lt 'ς' ?_
  rw [hshort, hlong]
  simp [List.count_append]

/-- With nothing that counts in front of it and no letter behind it, a sigma takes its final form
when a letter stands in front. -/
theorem not_infix_of_behind_nothing {front back : List Char} (hfront : Ignored front)
    (hback : meetsCased back = false) :
    ¬ lowerChars (front ++ 'Σ' :: back) <:+: lowerChars (['a'] ++ (front ++ 'Σ' :: back)) := by
  have hreverse : Ignored front.reverse := fun c hc => hfront c (List.mem_reverse.1 hc)
  have hletter : meetsCased ['a'] = true := by decide
  have halone : endsWord front.reverse back = false := by
    rw [endsWord, hreverse.meetsCased_eq]
    rfl
  have hends : endsWord (front.reverse ++ ['a']) back = true := by
    rw [endsWord, hreverse.meetsCased_append, hletter, hback]
    rfl
  have hshort : lowerChars (front ++ 'Σ' :: back)
      = lowerBetween [] ['Σ'] front ++ 'σ' :: lowerBetween ['Σ'] [] back := by
    rw [lowerChars_sigma, halone]
    rfl
  have hlong : lowerChars (['a'] ++ (front ++ 'Σ' :: back))
      = ['a'] ++ (lowerBetween [] ['Σ'] front ++ 'ς' :: lowerBetween ['Σ'] [] back) := by
    rw [lowerChars_eq_lowerBetween, lowerBetween_append, lowerBetween_sigma, List.append_nil,
      List.append_nil, List.append_nil, List.reverse_singleton, hends,
      lowerBetween_of_sigma_notMem (sigma_notMem_of_ignored hfront) ['a'] ['Σ'] [] ['Σ']]
    rfl
  -- one medial sigma is missing
  refine not_infix_of_count_lt 'σ' ?_
  rw [hshort, hlong]
  simp [List.count_append]

/-- **The texts that keep their lowercase** within every other one: those all of whose capital
sigmas are settled. -/
theorem steady_iff (s : List Char) :
    (∀ t, s <:+: t → lowerChars s <:+: lowerChars t) ↔ Steady s := by
  constructor
  · rintro h front back rfl
    refine ⟨?_, ?_⟩
    · intro hfront hback
      exact not_infix_of_behind_letter hfront hback (h _ (List.prefix_append _ _).isInfix)
    · intro hfront
      have hignored : Ignored front := fun c hc => hfront c (List.mem_reverse.2 hc)
      cases hback : meetsCased back with
      | true => rfl
      | false =>
        exact absurd (h _ (List.suffix_append _ _).isInfix)
          (not_infix_of_behind_nothing hignored hback)
  · rintro h t ⟨left, right, rfl⟩
    exact (h.sameSigmas left right).infix_lowerChars

/-- A sigma before a letter is settled, and one at the end of a word is not. -/
example : Steady "ΣΟΦΙΑ".toList ∧ ¬ Steady "ΣΟΦΟΣ".toList := by decide

end AssetSearch.Text
