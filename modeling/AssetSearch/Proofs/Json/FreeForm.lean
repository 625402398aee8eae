/-
# Free-form data

What a value gives as free-form data is settled: its members are sorted by key, no key is repeated,
and as free-form data it gives itself.

Key definitions: `Json.Sorted`, `Json.Readable`.  Key statements: `Json.sorted_sortMembers`,
`Json.lookup_sortMembers`, `Json.collect?_settled`.
-/
import Mathlib.Data.List.Forall2
import Mathlib.Data.List.Induction
import Mathlib.Data.String.Basic
import AssetSearch.Json.Basic

namespace AssetSearch.Json

/-! ## The value of a key -/

theorem lookup_append (key : String) (ms ns : List (String × Json)) :
    lookup key (ms ++ ns) = (lookup key ms).or (lookup key ns) := by
  induction ms with
  | nil => rfl
  | cons m ms ih =>
    by_cases h : m.1 = key
    · simp [lookup, h]
    · simp [lookup, h, ih]

theorem mem_of_lookup {key : String} {value : Json} {ms : List (String × Json)}
    (h : lookup key ms = some value) : (key, value) ∈ ms := by
  induction ms with
  | nil => simp [lookup] at h
  | cons m ms ih =>
    by_cases hkey : m.1 = key
    · simp only [lookup, if_pos hkey, Option.some.injEq] at h
      exact List.mem_cons.mpr (Or.inl (Prod.ext hkey.symm h.symm))
    · simp only [lookup, if_neg hkey] at h
      exact List.mem_cons_of_mem m (ih h)

theorem lookup_eq_none_iff {key : String} {ms : List (String × Json)} :
    lookup key ms = none ↔ ∀ m ∈ ms, m.1 ≠ key := by
  induction ms with
  | nil => simp [lookup]
  | cons m ms ih =>
    by_cases hkey : m.1 = key
    · simp [lookup, hkey]
    · simp [lookup, hkey, ih]

theorem lookup_of_mem {ms : List (String × Json)} (h : (ms.map Prod.fst).Nodup)
    {m : String × Json} (hm : m ∈ ms) : lookup m.1 ms = some m.2 := by
  induction ms with
  | nil => cases hm
  | cons n ms ih =>
    obtain ⟨hn, hms⟩ := List.nodup_cons.mp h
    rcases List.mem_cons.mp hm with rfl | hm
    · simp [lookup]
    · have hne : n.1 ≠ m.1 := fun heq => hn (heq ▸ List.mem_map_of_mem hm)
      simp [lookup, hne, ih hms hm]

/-- The order of members with different keys does not matter. -/
theorem lookup_perm {ms ns : List (String × Json)} (hperm : ms.Perm ns)
    (h : (ms.map Prod.fst).Nodup) (key : String) : lookup key ms = lookup key ns := by
  cases hkey : lookup key ms with
  | none =>
    have hnone := lookup_eq_none_iff.mp hkey
    exact (lookup_eq_none_iff.mpr fun n hn => hnone n (hperm.mem_iff.mpr hn)).symm
  | some j =>
    have hmem : (key, j) ∈ ns := hperm.mem_iff.mp (mem_of_lookup hkey)
    exact (lookup_of_mem ((hperm.map Prod.fst).nodup_iff.mp h) hmem).symm

/-- The first member with a key is the last one if there is at most one. -/
theorem lookup_reverse {key : String} {ms : List (String × Json)}
    (h : ms.Pairwise fun m n => m.1 = key → n.1 ≠ key) :
    lookup key ms.reverse = lookup key ms := by
  induction h with
  | nil => rfl
  | @cons m ms hm _ ih =>
    rw [List.reverse_cons, lookup_append, ih]
    by_cases hkey : m.1 = key
    · rw [lookup_eq_none_iff.mpr fun n hn => hm n hn hkey, Option.none_or]
      simp [lookup, hkey]
    · simp [lookup, hkey]

theorem lookup_filter (p : String → Bool) (key : String) (ms : List (String × Json)) :
    lookup key (ms.filter fun m => p m.1) = if p key then lookup key ms else none := by
  induction ms with
  | nil => simp [lookup]
  | cons m ms ih =>
    by_cases hkey : m.1 = key
    · subst hkey
      by_cases hp : p m.1 = true
      · simp [hp, lookup]
      · simpa [hp] using ih
    · by_cases hp : p m.1 = true
      · simpa [hp, lookup, hkey] using ih
      · simpa [hp, lookup, hkey] using ih

/-! ## Sorted members -/

/-- The keys grow strictly; so none is repeated. -/
def Sorted (ms : List (String × Json)) : Prop :=
  ms.Pairwise fun m n => m.1 < n.1

theorem Sorted.filter {ms : List (String × Json)} (h : Sorted ms) (p : String × Json → Bool) :
    Sorted (ms.filter p) :=
  List.Pairwise.filter p h

/-- Sorted members are known by the values of their keys. -/
theorem Sorted.ext {ms ns : List (String × Json)} (hms : Sorted ms) (hns : Sorted ns)
    (h : ∀ key, lookup key ms = lookup key ns) : ms = ns := by
  induction ms generalizing ns with
  | nil =>
    cases ns with
    | nil => rfl
    | cons n ns => simpa [lookup] using h n.1
  | cons m ms ih =>
    cases ns with
    | nil => simpa [lookup] using h m.1
    | cons n ns =>
      obtain ⟨hm, hms⟩ := List.pairwise_cons.mp hms
      obtain ⟨hn, hns⟩ := List.pairwise_cons.mp hns
      -- Each first key stands in the other list, so neither is the smaller one.
      have hmn : m.1 = n.1 := by
        by_contra hne
        have hleft : lookup n.1 ms = some n.2 := by simpa [lookup, hne] using h n.1
        have hright : lookup m.1 ns = some m.2 := by
          simpa [lookup, Ne.symm hne] using (h m.1).symm
        exact lt_asymm (hm _ (mem_of_lookup hleft)) (hn _ (mem_of_lookup hright))
      have hvalue : m.2 = n.2 := by simpa [lookup, hmn] using h m.1
      have htails : ms = ns := by
        refine ih hms hns fun key => ?_
        by_cases hkey : m.1 = key
        · have hout : ∀ p ∈ ms, p.1 ≠ key := fun p hp => hkey ▸ (hm p hp).ne'
          have hout' : ∀ p ∈ ns, p.1 ≠ key := fun p hp => hkey ▸ hmn ▸ (hn p hp).ne'
          rw [lookup_eq_none_iff.mpr hout, lookup_eq_none_iff.mpr hout']
        · simpa [lookup, hkey, hmn ▸ hkey] using h key
      rw [htails, Prod.ext hmn hvalue]

/-! ## Insertion -/

theorem lookup_insertMember (key other : String) (value : Json) (ms : List (String × Json)) :
    lookup other (insertMember key value ms) =
      if key = other then some value else lookup other ms := by
  induction ms with
  | nil => rfl
  | cons m ms ih =>
    by_cases heq : key = m.1
    · simp only [insertMember, if_pos heq, lookup]
      by_cases hother : key = other
      · rw [if_pos hother, if_pos hother]
      · rw [if_neg hother, if_neg hother, if_neg (heq ▸ hother)]
    · by_cases hlt : key < m.1
      · simp only [insertMember, if_neg heq, if_pos hlt, lookup]
      · simp only [insertMember, if_neg heq, if_neg hlt, lookup, ih]
        by_cases hm : m.1 = other
        · rw [if_pos hm, if_pos hm, if_neg (hm ▸ heq)]
        · rw [if_neg hm, if_neg hm]

theorem eq_or_mem_of_mem_insertMember {key : String} {value : Json} {ms : List (String × Json)}
    {n : String × Json} (h : n ∈ insertMember key value ms) : n = (key, value) ∨ n ∈ ms := by
  induction ms with
  | nil => exact Or.inl (List.mem_singleton.mp h)
  | cons m ms ih =>
    by_cases heq : key = m.1
    · simp only [insertMember, if_pos heq, List.mem_cons] at h
      exact h.imp_right (List.mem_cons_of_mem m)
    · by_cases hlt : key < m.1
      · simp only [insertMember, if_neg heq, if_pos hlt, List.mem_cons] at h
        exact h.imp_right List.mem_cons.mpr
      · simp only [insertMember, if_neg heq, if_neg hlt, List.mem_cons] at h
        rcases h with rfl | h
        · exact Or.inr List.mem_cons_self
        · exact (ih h).imp_right (List.mem_cons_of_mem m)

theorem Sorted.insertMember {ms : List (String × Json)} (h : Sorted ms) (key : String)
    (value : Json) : Sorted (insertMember key value ms) := by
  induction ms with
  | nil => exact List.pairwise_singleton _ _
  | cons m ms ih =>
    obtain ⟨hm, hms⟩ := List.pairwise_cons.mp h
    by_cases heq : key = m.1
    · simp only [Json.insertMember, if_pos heq]
      exact List.pairwise_cons.mpr ⟨fun n hn => heq ▸ hm n hn, hms⟩
    · by_cases hlt : key < m.1
      · simp only [Json.insertMember, if_neg heq, if_pos hlt]
        refine List.pairwise_cons.mpr ⟨fun n hn => ?_, h⟩
        rcases List.mem_cons.mp hn with rfl | hn
        · exact hlt
        · exact hlt.trans (hm n hn)
      · simp only [Json.insertMember, if_neg heq, if_neg hlt]
        refine List.pairwise_cons.mpr ⟨fun n hn => ?_, ih hms⟩
        rcases eq_or_mem_of_mem_insertMember hn with rfl | hn
        · exact lt_of_le_of_ne (not_lt.mp hlt) (Ne.symm heq)
        · exact hm n hn

/-! ## Sorting -/

theorem sortMembers_concat (ms : List (String × Json)) (m : String × Json) :
    sortMembers (ms ++ [m]) = insertMember m.1 m.2 (sortMembers ms) := by
  simp only [sortMembers, List.foldl_append, List.foldl_cons, List.foldl_nil]

theorem sorted_sortMembers (ms : List (String × Json)) : Sorted (sortMembers ms) := by
  induction ms using List.reverseRecOn with
  | nil => exact List.Pairwise.nil
  | append_singleton ms m ih =>
    rw [sortMembers_concat]
    exact ih.insertMember m.1 m.2

theorem mem_of_mem_sortMembers {ms : List (String × Json)} {n : String × Json}
    (h : n ∈ sortMembers ms) : n ∈ ms := by
  induction ms using List.reverseRecOn with
  | nil => exact h
  | append_singleton ms m ih =>
    rw [sortMembers_concat] at h
    rcases eq_or_mem_of_mem_insertMember h with rfl | h
    · exact List.mem_append_right ms (List.mem_singleton_self m)
    · exact List.mem_append_left [m] (ih h)

/-- Of a repeated key the last member counts. -/
theorem lookup_sortMembers (key : String) (ms : List (String × Json)) :
    lookup key (sortMembers ms) = lookup key ms.reverse := by
  induction ms using List.reverseRecOn with
  | nil => rfl
  | append_singleton ms m ih =>
    rw [sortMembers_concat, lookup_insertMember, ih, List.reverse_append]
    rfl

theorem Sorted.lookup_reverse {ms : List (String × Json)} (h : Sorted ms) (key : String) :
    lookup key ms.reverse = lookup key ms :=
  Json.lookup_reverse (h.imp fun hlt hm hn => hlt.ne (hm.trans hn.symm))

theorem Sorted.sortMembers_eq {ms : List (String × Json)} (h : Sorted ms) : sortMembers ms = ms :=
  (sorted_sortMembers ms).ext h fun key => by rw [lookup_sortMembers, h.lookup_reverse]

/-- Members with the same keys, none of them twice, are known by the values of their keys. -/
theorem eq_of_lookup_eq {ms ns : List (String × Json)} (hkeys : ms.map Prod.fst = ns.map Prod.fst)
    (h : (ms.map Prod.fst).Nodup) (hvalue : ∀ key, lookup key ms = lookup key ns) : ms = ns := by
  induction ms generalizing ns with
  | nil => exact (List.map_eq_nil_iff.mp hkeys.symm).symm
  | cons m ms ih =>
    cases ns with
    | nil => cases hkeys
    | cons n ns =>
      obtain ⟨hmn, hkeys⟩ := List.cons.inj hkeys
      obtain ⟨hm, hms⟩ := List.nodup_cons.mp h
      have hfirst : m.2 = n.2 := by simpa [lookup, hmn] using hvalue m.1
      have hrest : ms = ns := by
        refine ih hkeys hms fun key => ?_
        by_cases hkey : m.1 = key
        · have hout : ∀ p ∈ ms, p.1 ≠ key := fun p hp hpk =>
            hm (hkey ▸ hpk ▸ List.mem_map_of_mem hp)
          have hout' : ∀ p ∈ ns, p.1 ≠ key := fun p hp hpk =>
            hm (hkeys ▸ hkey ▸ hpk ▸ List.mem_map_of_mem hp)
          rw [lookup_eq_none_iff.mpr hout, lookup_eq_none_iff.mpr hout']
        · simpa [lookup, hkey, hmn ▸ hkey] using hvalue key
      rw [hrest, Prod.ext hmn hfirst]

/-- Sorting hides nothing of members whose keys are known. -/
theorem record_eq_iff {ms ns : List (String × Json)} (hkeys : ms.map Prod.fst = ns.map Prod.fst)
    (h : (ms.map Prod.fst).Nodup) : record ms = record ns ↔ ms = ns := by
  refine ⟨fun hrecord => eq_of_lookup_eq hkeys h fun key => ?_, congrArg record⟩
  have hsorted : sortMembers ms = sortMembers ns := Json.object.inj hrecord
  calc lookup key ms
      = lookup key (sortMembers ms) := by
        rw [lookup_sortMembers, lookup_perm ms.reverse_perm.symm h]
    _ = lookup key ns := by
        rw [hsorted, lookup_sortMembers, lookup_perm ns.reverse_perm.symm (hkeys ▸ h)]

/-- Members are chosen by their keys before or after sorting. -/
theorem filter_sortMembers (p : String → Bool) (ms : List (String × Json)) :
    ((sortMembers ms).filter fun m => p m.1) = sortMembers (ms.filter fun m => p m.1) := by
  refine ((sorted_sortMembers ms).filter _).ext (sorted_sortMembers _) fun key => ?_
  rw [lookup_filter, lookup_sortMembers, lookup_sortMembers, ← List.filter_reverse, lookup_filter]

/-! ## Collecting -/

theorem exists_of_mem_forall₂ {α β : Type} {R : α → β → Prop} {xs : List α} {ys : List β}
    (h : xs.Forall₂ R ys) {y : β} (hy : y ∈ ys) : ∃ x ∈ xs, R x y := by
  induction h with
  | nil => cases hy
  | @cons x _ _ _ hxy _ ih =>
    rcases List.mem_cons.mp hy with rfl | hy
    · exact ⟨x, List.mem_cons_self, hxy⟩
    · obtain ⟨x', hx', hxy'⟩ := ih hy
      exact ⟨x', List.mem_cons_of_mem x hx', hxy'⟩

/-- A member and its free-form form: the same key, and the value as free-form data. -/
def Collects (m n : String × Json) : Prop :=
  m.1 = n.1 ∧ m.2.collect? = some n.2

theorem collectItems?_eq_some_iff {items es : List Json} :
    collectItems? items = some es ↔ items.Forall₂ (fun j e => j.collect? = some e) es := by
  induction items generalizing es with
  | nil => simp [collectItems?, eq_comm]
  | cons j items ih =>
    rw [List.forall₂_cons_left_iff]
    constructor
    · intro h
      cases hj : collect? j with
      | none => simp [collectItems?, hj] at h
      | some e =>
        cases hitems : collectItems? items with
        | none => simp [collectItems?, hj, hitems] at h
        | some rest =>
          simp only [collectItems?, hj, hitems, Option.some.injEq] at h
          exact ⟨e, rest, rfl, ih.mp hitems, h.symm⟩
    · rintro ⟨e, rest, hj, hitems, rfl⟩
      simp only [collectItems?, hj, ih.mpr hitems]

theorem collectMembers?_eq_some_iff {ms ns : List (String × Json)} :
    collectMembers? ms = some ns ↔ ms.Forall₂ Collects ns := by
  induction ms generalizing ns with
  | nil => simp [collectMembers?, eq_comm]
  | cons m ms ih =>
    obtain ⟨key, j⟩ := m
    rw [List.forall₂_cons_left_iff]
    constructor
    · intro h
      cases hj : collect? j with
      | none => simp [collectMembers?, hj] at h
      | some e =>
        cases hms : collectMembers? ms with
        | none => simp [collectMembers?, hj, hms] at h
        | some rest =>
          simp only [collectMembers?, hj, hms, Option.some.injEq] at h
          exact ⟨(key, e), rest, ⟨rfl, hj⟩, ih.mp hms, h.symm⟩
    · rintro ⟨⟨other, e⟩, rest, ⟨hkey, hj⟩, hms, rfl⟩
      obtain rfl : key = other := hkey
      simp only [collectMembers?, hj, ih.mpr hms]

theorem collectMembers?_self_iff {ms : List (String × Json)} :
    collectMembers? ms = some ms ↔ ∀ m ∈ ms, m.2.collect? = some m.2 := by
  simp [collectMembers?_eq_some_iff, List.forall₂_same, Collects]

/-- Sorting settled members leaves nothing for free-form data to change. -/
theorem collect?_object_sortMembers {ms : List (String × Json)}
    (h : ∀ m ∈ ms, m.2.collect? = some m.2) :
    (object (sortMembers ms)).collect? = some (object (sortMembers ms)) := by
  have hself := collectMembers?_self_iff.mpr fun m hm => h m (mem_of_mem_sortMembers hm)
  simp only [collect?, hself, Option.map_some, record, (sorted_sortMembers ms).sortMembers_eq]

mutual

/-- Free-form data is settled. -/
theorem collect?_settled : ∀ {j e : Json}, j.collect? = some e → e.collect? = some e
  | .null, _, h => by cases h; rfl
  | .bool _, _, h => by cases h; rfl
  | .number _, _, h => by cases h; rfl
  | .string _, _, h => by cases h; rfl
  | .array items, e, h => by
    obtain ⟨es, hes, rfl⟩ := Option.map_eq_some_iff.mp h
    simp only [collect?, collectItems?_settled hes, Option.map_some]
  | .object members, e, h => by
    obtain ⟨ns, hns, rfl⟩ := Option.map_eq_some_iff.mp h
    exact collect?_object_sortMembers (collectMembers?_settled hns)

theorem collectItems?_settled : ∀ {items es : List Json},
    collectItems? items = some es → collectItems? es = some es
  | [], _, h => by cases h; rfl
  | j :: items, es, h => by
    obtain ⟨e, rest, hj, hitems, rfl⟩ :=
      List.forall₂_cons_left_iff.mp (collectItems?_eq_some_iff.mp h)
    simp only [collectItems?, collect?_settled hj,
      collectItems?_settled (collectItems?_eq_some_iff.mpr hitems)]

theorem collectMembers?_settled : ∀ {ms ns : List (String × Json)},
    collectMembers? ms = some ns → ∀ n ∈ ns, n.2.collect? = some n.2
  | [], _, h => by cases h; simp
  | (_, j) :: ms, ns, h => by
    obtain ⟨n, rest, hj, hms, rfl⟩ :=
      List.forall₂_cons_left_iff.mp (collectMembers?_eq_some_iff.mp h)
    exact List.forall_mem_cons.mpr ⟨collect?_settled hj.2,
      collectMembers?_settled (collectMembers?_eq_some_iff.mpr hms)⟩

end

theorem collect?_eq_null_iff {j : Json} : j.collect? = some .null ↔ j = .null := by
  cases j <;> simp [collect?, record]

theorem collect?_eq_number_iff {j : Json} {n : Number} :
    j.collect? = some (.number n) ↔ j = .number n := by
  cases j <;> simp [collect?, record]

/-! ## Readable values -/

/-- Everything in the value can be read. -/
def Readable (j : Json) : Prop :=
  ∃ e, j.collect? = some e

@[simp] theorem readable_null : null.Readable :=
  ⟨null, rfl⟩

@[simp] theorem readable_bool (b : Bool) : (bool b).Readable :=
  ⟨bool b, rfl⟩

@[simp] theorem readable_number (n : Number) : (number n).Readable :=
  ⟨number n, rfl⟩

@[simp] theorem readable_string (s : String) : (string s).Readable :=
  ⟨string s, rfl⟩

theorem readable_array {items : List Json} (h : ∀ j ∈ items, j.Readable) :
    (array items).Readable := by
  have hitems : ∃ es, collectItems? items = some es := by
    induction items with
    | nil => exact ⟨[], rfl⟩
    | cons j items ih =>
      obtain ⟨hj, hrest⟩ := List.forall_mem_cons.mp h
      obtain ⟨e, he⟩ := hj
      obtain ⟨es, hes⟩ := ih hrest
      exact ⟨e :: es, by simp only [collectItems?, he, hes]⟩
  obtain ⟨es, hes⟩ := hitems
  exact ⟨array es, by simp only [collect?, hes, Option.map_some]⟩

theorem readable_object {ms : List (String × Json)} (h : ∀ m ∈ ms, m.2.Readable) :
    (object ms).Readable := by
  have hms : ∃ ns, collectMembers? ms = some ns := by
    induction ms with
    | nil => exact ⟨[], rfl⟩
    | cons m ms ih =>
      obtain ⟨hm, hrest⟩ := List.forall_mem_cons.mp h
      obtain ⟨e, he⟩ := hm
      obtain ⟨ns, hns⟩ := ih hrest
      exact ⟨(m.1, e) :: ns, by simp only [collectMembers?, he, hns]⟩
  obtain ⟨ns, hns⟩ := hms
  exact ⟨record ns, by simp only [collect?, hns, Option.map_some]⟩

end AssetSearch.Json
