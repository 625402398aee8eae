/-
# What an id tells

The id of a task ends in its stamp, behind the last underscore; what stands in front of it tells the
kind of the task, and for a past query also the platform.  So two ids are the same only if kinds and
stamps are.

Key definitions: `Task.IdKind`, `IdKind.id`.  Key statements: `Stamp.lt_next`, `IdKind.id_inj`.
-/
import Mathlib.Tactic.Common
import AssetSearch.Task
import AssetSearch.Task.Stamp

namespace AssetSearch

/-! ## Stamps -/

/-- **The stamps of a source grow**, whatever the clock shows. -/
theorem Stamp.lt_next (last : Nat) (reading : Int) : last < Stamp.next last reading :=
  Nat.lt_of_lt_of_le (Nat.lt_succ_self last) (Nat.le_max_right _ _)

/-! ## Ids -/

namespace Task

/-- What an id is drawn for. -/
inductive IdKind where
  | search
  | exporting
  /-- The export of a past query. -/
  | past (platform : Platform)
  deriving DecidableEq

namespace IdKind

/-- The id of a kind with a stamp. -/
def id : IdKind → Nat → String
  | search, stamp => searchId stamp
  | exporting, stamp => exportId stamp
  | past platform, stamp => platformExportId platform stamp

/-- The kind of the task. -/
def taskKind : IdKind → TaskKind
  | search => .search
  | _ => .exporting

/-- What stands in front of the last underscore of an id. -/
def stem : IdKind → String
  | search => "search"
  | exporting => "export"
  | past platform => "export_" ++ platform.key

theorem toList_id (k : IdKind) (stamp : Nat) :
    (k.id stamp).toList = k.stem.toList ++ '_' :: Nat.toDigits 10 stamp := by
  cases k with
  | search => simp [id, searchId, stem]
  | exporting => simp [id, exportId, stem]
  | past platform => simp [id, platformExportId, stem]

theorem stem_inj {k k' : IdKind} (h : k.stem = k'.stem) : k = k' := by
  cases k with
  | search =>
    cases k' with
    | search => rfl
    | exporting => exact absurd h (by decide)
    | past platform => cases platform <;> exact absurd h (by decide)
  | exporting =>
    cases k' with
    | search => exact absurd h (by decide)
    | exporting => rfl
    | past platform => cases platform <;> exact absurd h (by decide)
  | past platform =>
    cases k' with
    | search => cases platform <;> exact absurd h (by decide)
    | exporting => cases platform <;> exact absurd h (by decide)
    | past platform' =>
      cases platform <;> cases platform' <;> first | rfl | exact absurd h (by decide)

/-- An underscore is no digit. -/
theorem underscore_notMem (stamp : Nat) : '_' ∉ Nat.toDigits 10 stamp := by
  intro h
  have hdigit := Nat.isDigit_of_mem_toDigits (by decide) (by decide) h
  cases hdigit

end IdKind

/-- What follows the last occurrence of a letter is not prolonged. -/
theorem prefix_eq_of_append_cons {α : Type} {c : α} {a b ds ds' : List α} (hds : c ∉ ds)
    (h : a ++ c :: ds = b ++ c :: ds') (hshort : a <+: b) : a = b := by
  obtain ⟨t, rfl⟩ := hshort
  rw [List.append_assoc, List.append_cancel_left_eq] at h
  cases t with
  | nil => rw [List.append_nil]
  | cons x t =>
    obtain ⟨-, htail⟩ := List.cons.inj h
    exact absurd (by simp [htail]) hds

namespace IdKind

/-- **Ids tell kinds and stamps apart.** -/
theorem id_inj {k k' : IdKind} {m n : Nat} : k.id m = k'.id n ↔ k = k' ∧ m = n := by
  constructor
  · intro h
    have hlists := congrArg String.toList h
    rw [toList_id, toList_id] at hlists
    -- the underscore in front of the digits is the last one on both sides
    have hstem : k.stem.toList = k'.stem.toList := by
      rcases List.append_eq_append_iff.1 hlists with ⟨t, ht, -⟩ | ⟨t, ht, -⟩
      · exact prefix_eq_of_append_cons (underscore_notMem m) hlists ⟨t, ht.symm⟩
      · exact (prefix_eq_of_append_cons (underscore_notMem n) hlists.symm ⟨t, ht.symm⟩).symm
    obtain rfl := stem_inj (String.toList_inj.1 hstem)
    have hdigits := (List.cons.inj (List.append_cancel_left hlists)).2
    have hstamp : m = n := by
      rw [← Nat.ofDigitChars_ten_toDigits (n := m), hdigits, Nat.ofDigitChars_ten_toDigits]
    exact ⟨rfl, hstamp⟩
  · rintro ⟨rfl, rfl⟩
    rfl

end IdKind

end Task

end AssetSearch
