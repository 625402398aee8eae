/-
# The ids of one source

A source is asked for ids again and again, each time for a task of some kind and with the clock
wherever it happens to stand.  Its stamps grow from call to call, none of them is behind the clock,
and so no id is given twice, whatever the tasks are.  Words of 64 bits suffice for the stamps, as
long as the clock stays away from the end of their range.

Key definitions: `Task.Draw`, `Task.Drawn`, `Site.drawAll`, `Stamp.words`.  Key statements:
`Stamp.words_eq`, `Site.ids_of_source`.
-/
import Mathlib.Algebra.Ring.Int.Defs
import Mathlib.Algebra.Ring.Nat
import Mathlib.Data.List.Pairwise
import AssetSearch.Backend.Site
import AssetSearch.Proofs.Task.Ids

namespace AssetSearch

/-! ## Stamps in words -/

namespace Stamp

/-- The next stamp is the later one of the clock and of the moment after the last stamp. -/
theorem cast_next (last : Nat) (reading : Int) :
    (next last reading : Int) = max reading (last + 1) := by
  unfold next
  omega

/-- No stamp is behind the clock. -/
theorem le_next (last : Nat) (reading : Int) : reading ≤ next last reading := by
  rw [cast_next]
  exact Int.le_max_left _ _

/-- The next stamp, reckoned in words of 64 bits. -/
def nextWord (last reading : Int64) : Int64 :=
  max reading (last + 1)

/-- The stamps for some readings of the clock, one after the other, reckoned in words. -/
def words (last : Int64) : List Int64 → List Int64
  | [] => []
  | reading :: rest => nextWord last reading :: words (nextWord last reading) rest

/-- The stamps for some readings of the clock, one after the other. -/
def numbers (last : Nat) : List Int64 → List Nat
  | [] => []
  | reading :: rest => next last reading.toInt :: numbers (next last reading.toInt) rest

/-- One word is not too small unless it was the largest before. -/
theorem toInt_nextWord {last : Int64} (h : last.toInt < 2 ^ 63 - 1) (reading : Int64) :
    (nextWord last reading).toInt = max reading.toInt (last.toInt + 1) := by
  have hone : (1 : Int64).toInt = 1 := rfl
  have hlow := last.le_toInt
  have hsucc : (last + 1).toInt = last.toInt + 1 := by
    rw [Int64.toInt_add, hone]
    exact Int.bmod_eq_of_le (by omega) (by omega)
  have hmax : nextWord last reading = if reading ≤ last + 1 then last + 1 else reading := rfl
  rw [hmax, ← hsucc]
  split
  · next hle => exact (Int.max_eq_right (Int64.le_iff_toInt_le.1 hle)).symm
  · next hle =>
    rw [Int64.le_iff_toInt_le, Int.not_le] at hle
    exact (Int.max_eq_left (Int.le_of_lt hle)).symm

/-- **Words suffice for the stamps**, if there is room for one step for each of them, both behind
the last stamp and behind every reading of the clock. -/
theorem words_eq {word : Int64} {last : Nat} (hword : word.toInt = last) (readings : List Int64)
    (hlast : last + readings.length < 2 ^ 63)
    (hclock : ∀ reading ∈ readings, reading.toInt + readings.length < 2 ^ 63) :
    (words word readings).map Int64.toInt
      = (numbers last readings).map fun n : Nat => (n : Int) := by
  induction readings generalizing word last with
  | nil => rfl
  | cons reading rest ih =>
    rw [List.length_cons] at hlast hclock
    have hreading := hclock reading List.mem_cons_self
    have hnext : (nextWord word reading).toInt = next last reading.toInt := by
      rw [toInt_nextWord (by omega), hword, cast_next]
    -- a step uses up one of the places that there is room for
    have hroom : next last reading.toInt + rest.length < 2 ^ 63 := by
      have hcast := cast_next last reading.toInt
      omega
    have hrest : ∀ r ∈ rest, r.toInt + rest.length < 2 ^ 63 := by
      intro r hr
      have hr := hclock r (List.mem_cons_of_mem reading hr)
      omega
    rw [words, numbers, List.map_cons, List.map_cons, hnext, ih hnext hroom hrest]

end Stamp

/-! ## Calls for ids -/

namespace Task

/-- A call for an id: the kind of the task, and what the clock shows. -/
structure Draw where
  kind : IdKind
  reading : Int64
  deriving DecidableEq

/-- A call with the stamp that it was given. -/
structure Drawn where
  call : Draw
  stamp : Nat
  deriving DecidableEq

/-- The id that a call was given. -/
def Drawn.id (x : Drawn) : String :=
  x.call.kind.id x.stamp

end Task

namespace Site

open AssetSearch.Task (Draw Drawn)

variable {σ : Type}

/-- One call to a source. -/
def draw (source : Nat) (s : Site σ) (call : Draw) : Drawn × Site σ :=
  let (stamp, s) := { s with clock := call.reading.toInt }.nextStamp source
  (⟨call, stamp⟩, s)

/-- Some calls to a source, one after the other. -/
def drawAll (source : Nat) (s : Site σ) : List Draw → List Drawn
  | [] => []
  | call :: calls => (s.draw source call).1 :: (s.draw source call).2.drawAll source calls

variable {source last : Nat} {s : Site σ}

theorem stamp_draw (h : s.stamps[source]? = some last) (call : Draw) :
    (s.draw source call).1 = ⟨call, Stamp.next last call.reading.toInt⟩ := by
  have hlast : s.stamps.getD source 0 = last := by
    rw [List.getD_eq_getElem?_getD, h, Option.getD_some]
  rw [← hlast]
  rfl

/-- A source remembers its last stamp. -/
theorem stamps_draw (h : s.stamps[source]? = some last) (call : Draw) :
    (s.draw source call).2.stamps[source]? = some (Stamp.next last call.reading.toInt) := by
  obtain ⟨hsource, -⟩ := List.getElem?_eq_some_iff.1 h
  have hstamps : (s.draw source call).2.stamps
      = s.stamps.set source (s.draw source call).1.stamp := rfl
  rw [hstamps, List.getElem?_set_self hsource, stamp_draw h]

theorem call_drawAll (source : Nat) (s : Site σ) (calls : List Draw) :
    (s.drawAll source calls).map Drawn.call = calls := by
  induction calls generalizing s with
  | nil => rfl
  | cons call calls ih =>
    rw [drawAll, List.map_cons, ih]
    rfl

theorem stamp_drawAll (h : s.stamps[source]? = some last) (calls : List Draw) :
    (s.drawAll source calls).map Drawn.stamp = Stamp.numbers last (calls.map Draw.reading) := by
  induction calls generalizing s last with
  | nil => rfl
  | cons call calls ih =>
    rw [drawAll, List.map_cons, ih (stamps_draw h call), stamp_draw h]
    rfl

/-- All later stamps are behind the last one. -/
theorem lt_of_mem_drawAll (h : s.stamps[source]? = some last) {calls : List Draw} {x : Drawn}
    (hx : x ∈ s.drawAll source calls) : last < x.stamp := by
  induction calls generalizing s last with
  | nil => cases hx
  | cons call calls ih =>
    have hnext := Stamp.lt_next last call.reading.toInt
    rcases List.mem_cons.1 hx with rfl | hx
    · rw [stamp_draw h]
      exact hnext
    · exact Nat.lt_trans hnext (ih (stamps_draw h call) hx)

theorem pairwise_drawAll (h : s.stamps[source]? = some last) (calls : List Draw) :
    (s.drawAll source calls).Pairwise fun x y => x.stamp < y.stamp := by
  induction calls generalizing s last with
  | nil => exact .nil
  | cons call calls ih =>
    refine .cons ?_ (ih (stamps_draw h call))
    intro y hy
    rw [stamp_draw h]
    exact lt_of_mem_drawAll (stamps_draw h call) hy

theorem reading_le_of_mem_drawAll (h : s.stamps[source]? = some last) {calls : List Draw}
    {x : Drawn} (hx : x ∈ s.drawAll source calls) : x.call.reading.toInt ≤ x.stamp := by
  induction calls generalizing s last with
  | nil => cases hx
  | cons call calls ih =>
    rcases List.mem_cons.1 hx with rfl | hx
    · rw [stamp_draw h]
      exact Stamp.le_next last call.reading.toInt
    · exact ih (stamps_draw h call) hx

/-- **The ids of one source**, whatever they are for and whatever the clock shows: every call is
given a stamp; the stamps grow, none is behind the clock at its call, and no two ids are the same.
If the clock stays as far from the end of the words of 64 bits as there are calls, reckoning in
words gives these stamps. -/
theorem ids_of_source (source : Nat) (s : Site σ) (hnew : s.stamps[source]? = some 0)
    (calls : List Draw) :
    let given := s.drawAll source calls
    given.map Drawn.call = calls ∧
    (given.Pairwise fun x y => x.stamp < y.stamp) ∧
    (∀ x ∈ given, x.call.reading.toInt ≤ x.stamp) ∧
    (given.map Drawn.id).Nodup ∧
    (calls.length < 2 ^ 63 → (∀ c ∈ calls, c.reading.toInt < 2 ^ 63 - 1 - calls.length) →
      (Stamp.words 0 (calls.map Draw.reading)).map Int64.toInt
        = given.map fun x => (x.stamp : Int)) := by
  intro given
  have hgrow : given.Pairwise fun x y => x.stamp < y.stamp := pairwise_drawAll hnew calls
  refine ⟨call_drawAll source s calls, hgrow, ?_, ?_, ?_⟩
  · intro x hx
    exact reading_le_of_mem_drawAll hnew hx
  · -- two ids with different stamps differ, of whatever kinds they are
    refine List.pairwise_map.2 (hgrow.imp fun hlt hid => ?_)
    exact Nat.ne_of_lt hlt (Task.IdKind.id_inj.1 hid).2
  · intro hlength hclock
    have hroom : ∀ reading ∈ calls.map Draw.reading,
        reading.toInt + (calls.map Draw.reading).length < 2 ^ 63 := by
      intro reading hreading
      obtain ⟨c, hc, rfl⟩ := List.mem_map.1 hreading
      have hc := hclock c hc
      rw [List.length_map]
      omega
    have hstart : (0 : Int64).toInt = (0 : Nat) := rfl
    have hlast : 0 + (calls.map Draw.reading).length < 2 ^ 63 := by
      rw [List.length_map]
      omega
    rw [Stamp.words_eq hstart _ hlast hroom, ← stamp_drawAll hnew, List.map_map]
    rfl

/-- A clock that stands still, falls back behind its start, and is ahead again, and ids of all
kinds: the stamp follows a platform in one and stands in for it in another. -/
theorem ids_of_source_stalled :
    let calls : List Draw := [⟨.exporting, 1000⟩, ⟨.past .fofa, 1000⟩, ⟨.search, -5⟩,
      ⟨.past .quake, 2000⟩, ⟨.exporting, 1999⟩]
    let s : Site Unit := ⟨(), .new [], [7, 0], 5, []⟩
    let given := s.drawAll 1 calls
    given.map Drawn.id
        = ["export_1000", "export_fofa_1001", "search_1002", "export_quake_2000", "export_2001"] ∧
      (given.map Drawn.id).Nodup ∧
      (Stamp.words 0 (calls.map Draw.reading)).map Int64.toInt
        = given.map fun x => (x.stamp : Int) := by
  intro calls s given
  have h := ids_of_source 1 s rfl calls
  exact ⟨by decide +kernel, h.2.2.2.1, h.2.2.2.2 (by decide) (by decide)⟩

end Site

end AssetSearch
