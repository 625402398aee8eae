/-
# Values that say the same

An object is known by the values of its keys: the order of the members does not matter, and of a
repeated key the last member counts.  Free-form data says the same as the value that it was made
from.  And of a record that was read from an object, the members that are written tell what they
were read from.

Key definitions: `Json.value?`, `Json.Same`, `RecordReader.Keeps`.  Key statements:
`Json.same_of_collect?`, `RecordReader.Keeps.seq`.
-/
import AssetSearch.Proofs.Json.Records

namespace AssetSearch

namespace Json

/-! ## The same value -/

/-- The value of a key: of a repeated key the last member counts. -/
def value? (key : String) (ms : List (String × Json)) : Option Json :=
  lookup key ms.reverse

/-- Two values say the same. -/
inductive Same : Json → Json → Prop where
  | refl (j : Json) : Same j j
  | array {items items' : List Json} (h : items.Forall₂ Same items') :
      Same (array items) (array items')
  | object {ms ns : List (String × Json)}
      (h : ∀ key, Option.Rel Same (value? key ms) (value? key ns)) :
      Same (object ms) (object ns)

theorem value?_of_forall₂ {R : Json → Json → Prop} {ms ns : List (String × Json)}
    (h : ms.Forall₂ (fun m n => m.1 = n.1 ∧ R m.2 n.2) ns) (key : String) :
    Option.Rel R (value? key ms) (value? key ns) :=
  lookup_of_forall₂ (List.forall₂_reverse_iff.mpr h) key

theorem Sorted.value?_eq {ms : List (String × Json)} (h : Sorted ms) (key : String) :
    value? key ms = lookup key ms :=
  h.lookup_reverse key

theorem value?_sortMembers (key : String) (ms : List (String × Json)) :
    value? key (sortMembers ms) = value? key ms := by
  rw [(sorted_sortMembers ms).value?_eq, lookup_sortMembers, value?]

mutual

/-- **Free-form data says the same** as the value that it was made from. -/
theorem same_of_collect? : ∀ {j e : Json}, j.collect? = some e → Same j e
  | .null, _, h => by cases h; exact .refl _
  | .bool _, _, h => by cases h; exact .refl _
  | .number _, _, h => by cases h; exact .refl _
  | .string _, _, h => by cases h; exact .refl _
  | .array items, e, h => by
    obtain ⟨es, hes, rfl⟩ := Option.map_eq_some_iff.mp h
    exact .array (same_of_collectItems? hes)
  | .object members, e, h => by
    obtain ⟨ns, hns, rfl⟩ := Option.map_eq_some_iff.mp h
    refine .object fun key => ?_
    rw [value?_sortMembers]
    exact value?_of_forall₂ (same_of_collectMembers? hns) key

theorem same_of_collectItems? : ∀ {items es : List Json},
    collectItems? items = some es → items.Forall₂ Same es
  | [], _, h => by cases h; exact .nil
  | j :: items, es, h => by
    obtain ⟨e, rest, hj, hitems, rfl⟩ :=
      List.forall₂_cons_left_iff.mp (collectItems?_eq_some_iff.mp h)
    exact .cons (same_of_collect? hj) (same_of_collectItems? (collectItems?_eq_some_iff.mpr hitems))

theorem same_of_collectMembers? : ∀ {ms ns : List (String × Json)},
    collectMembers? ms = some ns → ms.Forall₂ (fun m n => m.1 = n.1 ∧ Same m.2 n.2) ns
  | [], _, h => by cases h; exact .nil
  | (_, j) :: ms, ns, h => by
    obtain ⟨n, rest, hj, hms, rfl⟩ :=
      List.forall₂_cons_left_iff.mp (collectMembers?_eq_some_iff.mp h)
    exact .cons ⟨hj.1, same_of_collect? hj.2⟩
      (same_of_collectMembers? (collectMembers?_eq_some_iff.mpr hms))

end

end Json

/-! ## What a written record tells of what it was read from -/

namespace RecordReader

open Json (Same lookup value?)

variable {α β : Type} {kept : String → Option Json → Option Json}

/-- The members that are written for a record have for every field what is kept of the value that
the field was read from, if it was there; `P` says which members these are. -/
def Keeps (r : RecordReader α) (kept : String → Option Json → Option Json)
    (P : List (String × Json) → α → Prop) : Prop :=
  r.names.Nodup → ∀ ms a, r.build ms = .ok a → ∃ out, P out a ∧
    (out.map Prod.fst).Sublist r.names ∧
    ∀ key ∈ r.names, lookup key out = kept key (lookup key ms)

theorem keeps_const {P : List (String × Json) → α → Prop} {a : α} (h : P [] a) :
    (const a).Keeps kept P := by
  intro _ ms a' ha
  obtain rfl := Except.ok.inj ha
  exact ⟨[], h, List.Sublist.refl [], fun key hkey => by cases hkey⟩

/-- The members of one more field come behind the others. -/
theorem Keeps.seq {P : List (String × Json) → β → Prop} {members : α → List (String × Json)}
    {r : RecordReader (α → β)} {s : RecordReader α}
    (hr : r.Keeps kept fun out f => ∀ a, P (out ++ members a) (f a))
    (hs : s.Keeps kept fun out a => out = members a) : (r <*> s).Keeps kept P := by
  intro hnames ms b hb
  rw [names_seq] at hnames ⊢
  obtain ⟨hrnames, hsnames, hdisjoint⟩ := List.nodup_append.mp hnames
  obtain ⟨f, a, hf, ha, rfl⟩ := build_seq_eq_ok_iff.mp hb
  obtain ⟨out, hP, hout, hlookup⟩ := hr hrnames ms f hf
  obtain ⟨_, rfl, hout', hlookup'⟩ := hs hsnames ms a ha
  refine ⟨out ++ members a, hP a, ?_, fun key hkey => ?_⟩
  · rw [List.map_append]
    exact hout.append hout'
  · -- a key of one half has no member in the other
    rw [Json.lookup_append]
    rcases List.mem_append.mp hkey with hkey | hkey
    · have hnone : lookup key (members a) = none := Json.lookup_eq_none_iff.mpr
        fun m hm heq => hdisjoint key hkey m.1 (hout'.subset (List.mem_map_of_mem hm)) heq.symm
      rw [hnone, Option.or_none, hlookup key hkey]
    · have hnone : lookup key out = none := Json.lookup_eq_none_iff.mpr
        fun m hm heq => hdisjoint m.1 (hout.subset (List.mem_map_of_mem hm)) key hkey heq
      rw [hnone, Option.none_or, hlookup' key hkey]

theorem Keeps.map {P : List (String × Json) → β → Prop} {members : α → List (String × Json)}
    {g : α → β} {s : RecordReader α} (hg : ∀ a, P (members a) (g a))
    (hs : s.Keeps kept fun out a => out = members a) : (g <$> s).Keeps kept P :=
  Keeps.seq (keeps_const hg) hs

/-- A text that is written in any case. -/
theorem keeps_text {key absent : String}
    (hkept : ∀ found, kept key found = some (found.getD (.string absent))) :
    (optional key absent Json.toStr).Keeps kept
      fun out a => out = Json.member key (.string a) := by
  intro _ ms a ha
  refine ⟨_, rfl, List.Sublist.refl [key], fun key' hkey => ?_⟩
  obtain rfl : key' = key := List.mem_singleton.mp hkey
  rw [hkept]
  simp only [optional] at ha
  cases hfound : lookup key' ms with
  | none =>
    rw [hfound] at ha
    obtain rfl := Except.ok.inj ha
    simp [Json.member, lookup]
  | some j =>
    rw [hfound] at ha
    obtain rfl := Json.toStr_eq_ok_iff.mp ha
    simp [Json.member, lookup]

/-- A text that is left out when it is missing or `null`. -/
theorem keeps_optionalText {key : String}
    (hkept : ∀ found, kept key found = found.filter fun j => !j.isNull) :
    (optional key none (Json.toOption Json.toStr)).Keeps kept
      fun out o => out = Json.memberIfSome key .string o := by
  intro _ ms o ho
  refine ⟨_, rfl, ?_, fun key' hkey => ?_⟩
  · cases o with
    | none => exact List.nil_sublist _
    | some a => exact List.Sublist.refl [key]
  · obtain rfl : key' = key := List.mem_singleton.mp hkey
    rw [hkept]
    simp only [optional] at ho
    cases hfound : lookup key' ms with
    | none =>
      rw [hfound] at ho
      obtain rfl := Except.ok.inj ho
      rfl
    | some j =>
      rw [hfound] at ho
      rcases Json.toOption_eq_ok_iff.mp ho with ⟨rfl, rfl⟩ | ⟨-, s, hs, rfl⟩
      · rfl
      · obtain rfl := Json.toStr_eq_ok_iff.mp hs
        show lookup key' [(key', .string s)] = some (.string s)
        simp [lookup]

end RecordReader

end AssetSearch
