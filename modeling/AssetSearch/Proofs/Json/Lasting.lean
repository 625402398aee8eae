/-
# Writing what was read

A reader and a writer fit each other when everything that is read is written as data that reads as
the same again, whether the data is taken as it was written or as free-form data.

Key definitions: `Json.RoundTrips`, `Json.Restored`, `Json.Lasting`.  Key statements:
`Json.Lasting.roundTrips`, one statement for each of the basic kinds, `Json.Lasting.ofOption` and
`Json.Lasting.ofList`.
-/
import AssetSearch.Json.Decode
import AssetSearch.Proofs.Json.FreeForm

namespace AssetSearch.Json

variable {α : Type} {read : Json → Decoded α} {write : α → Json}

/-! ## Readers and their writers -/

/-- Whatever is read is written as readable data, and reads as the same from what was written and
from its free-form data. -/
def RoundTrips (read : Json → Decoded α) (write : α → Json) : Prop :=
  ∀ j a, read j = .ok a →
    read (write a) = .ok a ∧ ∃ e, (write a).collect? = some e ∧ read e = .ok a

/-- What is written for `a` can be read, and as `a`. -/
structure Restored (read : Json → Decoded α) (write : α → Json) (a : α) : Prop where
  again : read (write a) = .ok a
  readable : (write a).Readable

/-- The laws of a reader and its writer, from which those of larger ones follow. -/
structure Lasting (read : Json → Decoded α) (write : α → Json) : Prop where
  /-- The free-form data of a value reads as the value does. -/
  settled : ∀ {j e a}, j.collect? = some e → read j = .ok a → read e = .ok a
  restored : ∀ {j a}, read j = .ok a → Restored read write a
  /-- Nothing but `null` comes back as `null`. -/
  null : ∀ {j a}, read j = .ok a → write a = .null → j = .null

theorem Lasting.roundTrips (h : Lasting read write) : RoundTrips read write := by
  intro j a hj
  obtain ⟨hagain, e, he⟩ := h.restored hj
  exact ⟨hagain, e, he, h.settled he hagain⟩

/-! ## Basic kinds -/

/-- A reader that takes only values without parts need not look at free-form data. -/
theorem settled_of_plain (h : ∀ {j a}, read j = .ok a → j.collect? = some j) {j e : Json} {a : α}
    (he : j.collect? = some e) (hj : read j = .ok a) : read e = .ok a := by
  obtain rfl : j = e := Option.some.inj ((h hj).symm.trans he)
  exact hj

theorem toStr_eq_ok_iff {j : Json} {s : String} : j.toStr = .ok s ↔ j = .string s := by
  cases j <;> simp [toStr]

theorem lasting_toStr : Lasting toStr string where
  settled := settled_of_plain fun h => by rw [toStr_eq_ok_iff.mp h]; rfl
  restored _ := ⟨rfl, readable_string _⟩
  null _ h := by cases h

theorem toBool_eq_ok_iff {j : Json} {b : Bool} : j.toBool = .ok b ↔ j = .bool b := by
  cases j <;> simp [toBool]

theorem lasting_toBool : Lasting toBool bool where
  settled := settled_of_plain fun h => by rw [toBool_eq_ok_iff.mp h]; rfl
  restored _ := ⟨rfl, readable_bool _⟩
  null _ h := by cases h

theorem toIntBetween_eq_ok_iff {low high n : Int} {name : String} {j : Json} :
    j.toIntBetween low high name = .ok n ↔ j = ofInt n ∧ low ≤ n ∧ n ≤ high := by
  rcases j with _ | _ | (m | _) | _ | _ | _ | _ <;> simp [toIntBetween, ofInt]
  by_cases h : low ≤ m ∧ m ≤ high
  · simp only [if_pos h, Except.ok.injEq]
    exact ⟨fun hm => ⟨hm, hm ▸ h⟩, And.left⟩
  · simp only [if_neg h, reduceCtorEq, false_iff]
    exact fun hm => h (hm.1 ▸ hm.2)

theorem lasting_toInt32 : Lasting toInt32 ofInt where
  settled := settled_of_plain fun h => by rw [(toIntBetween_eq_ok_iff.mp h).1]; rfl
  restored h := ⟨toIntBetween_eq_ok_iff.mpr ⟨rfl, (toIntBetween_eq_ok_iff.mp h).2⟩,
    readable_number _⟩
  null _ h := by cases h

theorem toNat_eq_ok_iff {high n : Nat} {name : String} {j : Json} :
    (j.toIntBetween 0 high name).map Int.toNat = .ok n ↔ j = ofNat n ∧ n ≤ high := by
  constructor
  · intro h
    cases hj : j.toIntBetween 0 high name with
    | error e => simp [hj, Except.map] at h
    | ok m =>
      obtain ⟨rfl, hlow, hhigh⟩ := toIntBetween_eq_ok_iff.mp hj
      obtain rfl : m.toNat = n := by simpa [hj, Except.map] using h
      refine ⟨?_, by omega⟩
      rw [ofInt, ofNat, Int.toNat_of_nonneg hlow]
  · rintro ⟨rfl, hn⟩
    have hj : (ofInt n).toIntBetween 0 high name = .ok (n : Int) :=
      toIntBetween_eq_ok_iff.mpr ⟨rfl, by omega, by omega⟩
    show ((ofInt n).toIntBetween 0 high name).map Int.toNat = .ok n
    rw [hj]
    rfl

/-- The numbers up to a bound. -/
theorem lasting_toNat (high : Nat) (name : String) :
    Lasting (fun j => (j.toIntBetween 0 high name).map Int.toNat) ofNat where
  settled := settled_of_plain fun {j _} h => by
    obtain rfl : j = ofNat _ := (toNat_eq_ok_iff.mp h).1
    rfl
  restored h := ⟨toNat_eq_ok_iff.mpr ⟨rfl, (toNat_eq_ok_iff.mp h).2⟩, readable_number _⟩
  null _ h := by cases h

theorem lasting_toNat32 : Lasting toNat32 ofNat :=
  lasting_toNat maxNat32 "u32"

theorem lasting_toNat64 : Lasting toNat64 ofNat :=
  lasting_toNat maxNat64 "u64"

/-- An integer is not written as one again, but the double that it became lasts. -/
theorem lasting_toDouble : Lasting toDouble ofDouble where
  settled := settled_of_plain fun {j _} h => by
    rcases j with _ | _ | (_ | _) | _ | _ | _ | _ <;> first | rfl | cases h
  restored _ := ⟨rfl, readable_number _⟩
  null _ h := by cases h

theorem toValue_eq_ok_iff {j e : Json} : j.toValue = .ok e ↔ j.collect? = some e := by
  unfold toValue
  cases j.collect? <;> simp

theorem lasting_toValue : Lasting toValue id where
  settled he hj := by
    obtain rfl := Option.some.inj (he.symm.trans (toValue_eq_ok_iff.mp hj))
    exact toValue_eq_ok_iff.mpr (collect?_settled he)
  restored hj :=
    have hself := collect?_settled (toValue_eq_ok_iff.mp hj)
    ⟨toValue_eq_ok_iff.mpr hself, _, hself⟩
  null hj hnull := collect?_eq_null_iff.mp ((toValue_eq_ok_iff.mp hj).trans (congrArg some hnull))

/-! ## Enumerations -/

theorem exists_of_choose {choices : List (String × α)} {name : String} {a : α}
    (h : choose choices name = .ok a) : ∃ c ∈ choices, c.2 = a := by
  unfold choose at h
  cases hfind : choices.find? fun c => c.1 == name with
  | none => simp [hfind] at h
  | some c =>
    rw [hfind] at h
    exact ⟨c, List.mem_of_find?_eq_some hfind, Except.ok.inj h⟩

theorem toChoice_eq_ok {choices : List (String × α)} {j : Json} {a : α}
    (h : j.toChoice choices = .ok a) :
    (∃ name, (j = .string name ∨ j = .object [(name, .null)]) ∧ choose choices name = .ok a) := by
  unfold toChoice at h
  split at h
  · exact ⟨_, .inl rfl, h⟩
  · next name value =>
    cases hchoose : choose choices name with
    | error e => simp [hchoose] at h
    | ok b =>
      cases value <;> simp [hchoose, isNull] at h
      exact ⟨name, .inr rfl, h ▸ hchoose⟩
  · cases h
  · cases h

/-- An enumeration whose every choice is found under the name that is written for it. -/
theorem lasting_toChoice (choices : List (String × α)) (key : α → String)
    (h : ∀ c ∈ choices, choices.find? (fun d => d.1 == key c.2) = some (key c.2, c.2)) :
    Lasting (toChoice choices) fun a => string (key a) where
  settled he hj := by
    obtain ⟨name, rfl | rfl, hchoose⟩ := toChoice_eq_ok hj
    · cases he
      exact hj
    · cases he
      exact hj
  restored hj := by
    obtain ⟨name, -, hchoose⟩ := toChoice_eq_ok hj
    obtain ⟨c, hc, rfl⟩ := exists_of_choose hchoose
    refine ⟨?_, readable_string _⟩
    simp only [toChoice, choose, h c hc]
  null _ h := by cases h

/-! ## Values that may be missing, and lists of values -/

theorem toOption_eq_ok_iff {j : Json} {o : Option α} :
    j.toOption read = .ok o ↔
      (j = .null ∧ o = none) ∨ (j ≠ .null ∧ ∃ a, read j = .ok a ∧ o = some a) := by
  by_cases hnull : j = .null
  · subst hnull
    simp [toOption, eq_comm]
  · rw [toOption.eq_2 read j hnull]
    cases hj : read j with
    | error e => simp [Except.map, hnull]
    | ok a => simp [Except.map, hnull, eq_comm]

theorem Lasting.ofOption (h : Lasting read write) :
    Lasting (toOption read) (ofOption write) where
  settled he hj := by
    rcases toOption_eq_ok_iff.mp hj with ⟨rfl, rfl⟩ | ⟨hnull, a, ha, rfl⟩
    · cases he
      rfl
    · refine toOption_eq_ok_iff.mpr (.inr ⟨?_, a, h.settled he ha, rfl⟩)
      rintro rfl
      exact hnull (collect?_eq_null_iff.mp he)
  restored hj := by
    rcases toOption_eq_ok_iff.mp hj with ⟨rfl, rfl⟩ | ⟨hnull, a, ha, rfl⟩
    · exact ⟨rfl, readable_null⟩
    · obtain ⟨hagain, hreadable⟩ := h.restored ha
      exact ⟨toOption_eq_ok_iff.mpr (.inr ⟨fun hw => hnull (h.null ha hw), a, hagain, rfl⟩),
        hreadable⟩
  null hj hw := by
    rcases toOption_eq_ok_iff.mp hj with ⟨rfl, -⟩ | ⟨-, a, ha, rfl⟩
    · rfl
    · exact h.null ha hw

theorem readAll_eq_ok_iff {items : List Json} {as : List α} :
    readAll read items = .ok as ↔ items.Forall₂ (fun j a => read j = .ok a) as := by
  induction items generalizing as with
  | nil => simp [readAll, eq_comm]
  | cons j items ih =>
    rw [List.forall₂_cons_left_iff]
    cases hj : read j with
    | error e => simp [readAll, hj]
    | ok a =>
      cases hitems : readAll read items with
      | error e => simp [readAll, hj, hitems, Except.map, ← ih]
      | ok rest => simp [readAll, hj, hitems, Except.map, ← ih, eq_comm]

theorem restored_nil (read : Json → Decoded α) (write : α → Json) :
    Restored (toList read) (ofList write) [] :=
  ⟨rfl, readable_array (List.forall_mem_nil _)⟩

theorem Lasting.items_settled (h : Lasting read write) {items es : List Json} {as : List α}
    (hes : items.Forall₂ (fun j e => j.collect? = some e) es)
    (has : items.Forall₂ (fun j a => read j = .ok a) as) :
    es.Forall₂ (fun e a => read e = .ok a) as := by
  induction hes generalizing as with
  | nil =>
    cases has
    exact .nil
  | cons hje _ ih =>
    cases has with
    | cons hja has => exact .cons (h.settled hje hja) (ih has)

theorem Lasting.ofList (h : Lasting read write) : Lasting (toList read) (ofList write) where
  settled {j e as} he hj := by
    cases j with
    | array items =>
      obtain ⟨es, hes, rfl⟩ := Option.map_eq_some_iff.mp he
      exact readAll_eq_ok_iff.mpr
        (h.items_settled (collectItems?_eq_some_iff.mp hes) (readAll_eq_ok_iff.mp hj))
    | _ => cases hj
  restored {j as} hj := by
    cases j with
    | array items =>
      have hitems : items.Forall₂ (fun j a => read j = .ok a) as := readAll_eq_ok_iff.mp hj
      have hall : ∀ a ∈ as, Restored read write a := fun a ha => by
        obtain ⟨j, -, hja⟩ := exists_of_mem_forall₂ hitems ha
        exact h.restored hja
      refine ⟨readAll_eq_ok_iff.mpr ?_, readable_array ?_⟩
      · rw [List.forall₂_map_left_iff]
        exact List.forall₂_same.mpr fun a ha => (hall a ha).again
      · exact List.forall_mem_map.mpr fun a ha => (hall a ha).readable
    | _ => cases hj
  null _ h := by cases h

end AssetSearch.Json
