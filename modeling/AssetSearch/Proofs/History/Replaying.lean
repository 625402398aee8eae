/-
# The export of a past query

A past query is exported again just if it succeeded, found something, and has a platform and a query
that an export can be run with.  The export asks for as few pages as hold everything that was found,
and for the largest number of pages that there is if those are too many.

Key definitions: `Export.Fewest`, `Export.FewestWithin`, `Export.divUp`, `Export.pagesInWords`,
`HistoryRecord.ReplaysOn`.  Key statements: `Export.fewest_divUp`, `Export.fewestWithin_pagesFor`,
`Export.replayRequest_eq_ok_iff`, `Export.replay_covers_record`.
-/
import Mathlib.Algebra.Order.Floor.Div
import Mathlib.Order.Bounds.Basic
import AssetSearch.Proofs.Backend.Asking

namespace AssetSearch

namespace Export

/-! ## As few pages as it takes -/

/-- The least number of pages on which the results have room. -/
def Fewest (results pageSize : Nat) : Nat → Prop :=
  IsLeast {pages | results ≤ pageSize * pages}

/-- The least number of pages on which the results have room if it is a number of 32 bits, and the
largest such number if not. -/
def FewestWithin (results pageSize pages : Nat) : Prop :=
  ∃ fewest, Fewest results pageSize fewest ∧
    pages = if fewest < UInt32.size then fewest else UInt32.size - 1

/-- Rounding a quotient up. -/
theorem fewest_ceilDiv (results : Nat) {pageSize : Nat} (h : 0 < pageSize) :
    Fewest results pageSize ((results + pageSize - 1) / pageSize) := by
  rw [← Nat.ceilDiv_eq_add_pred_div]
  constructor
  · exact (ceilDiv_le_iff_le_mul h).1 (Nat.le_refl _)
  · intro pages hpages
    exact (ceilDiv_le_iff_le_mul h).2 hpages

/-- Rounding a quotient up by looking at the remainder. -/
theorem fewest_of_remainder (results : Nat) {pageSize : Nat} (h : 0 < pageSize) :
    Fewest results pageSize
      (if results % pageSize = 0 then results / pageSize else results / pageSize + 1) := by
  have hparts := Nat.div_add_mod results pageSize
  split
  · next hnone =>
    refine ⟨?_, fun pages hpages => Nat.div_le_of_le_mul hpages⟩
    show results ≤ pageSize * (results / pageSize)
    omega
  · next hsome =>
    refine ⟨Nat.le_of_lt (Nat.lt_mul_div_succ results h), ?_⟩
    intro pages hpages
    -- the full pages alone leave something over
    by_contra hfew
    have hle : pages ≤ results / pageSize := by omega
    have hfull : pageSize * pages ≤ pageSize * (results / pageSize) := Nat.mul_le_mul_left _ hle
    have hroom : results ≤ pageSize * pages := hpages
    omega

/-- **The pages of an export hold all results**, and there are no more of them than it takes, as far
as 32 bits go. -/
theorem fewestWithin_pagesFor (results : Nat) {pageSize : Nat} (h : 0 < pageSize) :
    FewestWithin results pageSize (pagesFor results pageSize) := by
  refine ⟨_, fewest_ceilDiv results h, ?_⟩
  rw [pagesFor, if_neg (Nat.ne_of_gt h)]
  have hsize : UInt32.size = 4294967296 := rfl
  split <;> omega

/-! ## Counting pages in words -/

/-- A quotient of words, rounded up. -/
def divUp (n d : UInt64) : UInt64 :=
  if n % d = 0 then n / d else n / d + 1

/-- The pages for some results, reckoned in words: the results are counted in 64 bits, the pages and
their size in 32. -/
def pagesInWords (results : UInt64) (pageSize : UInt32) : UInt32 :=
  if results = 0 ∨ pageSize = 0 then 0
  else
    let pages := divUp results pageSize.toUInt64
    if pages.toNat < UInt32.size then pages.toUInt32 else 4294967295

/-- Rounding up does not leave the words: where there is a remainder, the quotient is not the
largest word. -/
theorem toNat_divUp {n d : UInt64} (h : 0 < d.toNat) :
    (divUp n d).toNat
      = if n.toNat % d.toNat = 0 then n.toNat / d.toNat else n.toNat / d.toNat + 1 := by
  have hremainder : n % d = 0 ↔ n.toNat % d.toNat = 0 := by
    rw [← UInt64.toNat_inj, UInt64.toNat_mod]
    rfl
  rw [divUp]
  by_cases hnone : n.toNat % d.toNat = 0
  · rw [if_pos (hremainder.2 hnone), if_pos hnone, UInt64.toNat_div]
  · rw [if_neg (mt hremainder.1 hnone), if_neg hnone, UInt64.toNat_add, UInt64.toNat_div]
    have hone : (1 : UInt64).toNat = 1 := rfl
    -- a remainder needs a divisor above one, and something to divide
    have hd : 1 < d.toNat := by
      by_contra hle
      obtain hd : d.toNat = 1 := by omega
      exact hnone (by rw [hd, Nat.mod_one])
    have hn : 0 < n.toNat := by
      by_contra hle
      obtain hn : n.toNat = 0 := by omega
      exact hnone (by rw [hn, Nat.zero_mod])
    have hless := Nat.div_lt_self hn hd
    have hword := n.toNat_lt
    rw [hone, Nat.mod_eq_of_lt (by omega)]

theorem toNat_pos {pageSize : UInt32} (h : pageSize ≠ 0) : 0 < pageSize.toNat := by
  rw [Nat.pos_iff_ne_zero]
  exact fun hzero => h (UInt32.toNat_inj.1 hzero)

theorem fewest_divUp (results : UInt64) {pageSize : UInt32} (h : pageSize ≠ 0) :
    Fewest results.toNat pageSize.toNat (divUp results pageSize.toUInt64).toNat := by
  have hwide : pageSize.toUInt64.toNat = pageSize.toNat := UInt32.toNat_toUInt64 pageSize
  have hpositive := toNat_pos h
  rw [toNat_divUp (by rwa [hwide]), hwide]
  exact fewest_of_remainder results.toNat hpositive

/-- **Words suffice for counting pages.** -/
theorem toNat_pagesInWords (results : UInt64) (pageSize : UInt32) :
    (pagesInWords results pageSize).toNat = pagesFor results.toNat pageSize.toNat := by
  rw [pagesInWords]
  by_cases hsize : pageSize = 0
  · subst hsize
    rw [if_pos (.inr rfl)]
    rfl
  · have hpositive := toNat_pos hsize
    by_cases hresults : results = 0
    · subst hresults
      rw [if_pos (.inl rfl), pagesFor, if_neg (Nat.ne_of_gt hpositive)]
      have hzero : (0 : UInt64).toNat = 0 := rfl
      rw [hzero, Nat.zero_add, Nat.div_eq_of_lt (by omega), Nat.zero_min]
      rfl
    · rw [if_neg (by simp [hresults, hsize])]
      -- both are the least number of pages, and what follows is the same
      have hpages := (fewest_divUp results hsize).unique (fewest_ceilDiv results.toNat hpositive)
      have h32 : UInt32.size = 4294967296 := rfl
      have hlargest : (4294967295 : UInt32).toNat = 4294967295 := rfl
      dsimp only
      rw [pagesFor, if_neg (Nat.ne_of_gt hpositive), ← hpages]
      split
      · rw [UInt64.toNat_toUInt32]
        omega
      · omega

end Export

/-! ## What is exported -/

/-- A past query that can be exported again, on a platform. -/
structure HistoryRecord.ReplaysOn (record : HistoryRecord) (platform : Platform) : Prop where
  success : record.success = true
  found : 0 < record.resultsCount
  platform_eq : Platform.parse record.platform = .ok platform
  query : Text.blank record.query = false

/-- The guards of an export let through what is complete. -/
theorem ExportRequest.check_eq_ok_iff (r : ExportRequest) : r.check = .ok () ↔ r.Complete := by
  constructor
  · intro h
    exact (h ▸ guards_check r).holds
  · intro h
    have hpages : r.pages ≠ 0 := Nat.one_le_iff_ne_zero.1 h.pages
    have hpageSize : r.pageSize ≠ 0 := Nat.one_le_iff_ne_zero.1 h.pageSize
    rw [check, if_neg (by simp [h.query]), if_neg hpages, if_neg hpageSize]

namespace Export

variable {σ : Type}

/-- What was found fills at least one page. -/
theorem one_le_pagesFor {results pageSize : Nat} (hresults : 0 < results) (h : 0 < pageSize) :
    1 ≤ pagesFor results pageSize := by
  have hpage : 1 ≤ (results + pageSize - 1) / pageSize :=
    (Nat.one_le_div_iff h).2 (by omega)
  have h32 : UInt32.size = 4294967296 := rfl
  rw [pagesFor, if_neg (Nat.ne_of_gt h)]
  omega

/-- The request for everything that a past query has found is complete if there is a query. -/
theorem check_replay {record : HistoryRecord} (h : 0 < record.resultsCount) :
    (ExportRequest.new record.query (pagesFor record.resultsCount replayPageSize)
      replayPageSize).check = .ok () ↔ Text.blank record.query = false := by
  have hpages : 1 ≤ pagesFor record.resultsCount replayPageSize := one_le_pagesFor h (by decide)
  have hpageSize : 1 ≤ replayPageSize := by decide
  rw [ExportRequest.check_eq_ok_iff]
  exact ⟨fun hr => hr.query, fun hquery => ⟨hquery, hpages, hpageSize⟩⟩

/-- **What the guards of a replay let through**: the past queries that can be exported again, with a
request for everything that they have found.  There is always a page to ask for. -/
theorem replayRequest_eq_ok_iff (record : HistoryRecord) (platform : Platform) (r : ExportRequest) :
    replayRequest record = .ok (platform, r) ↔
      record.ReplaysOn platform ∧
        r = .new record.query (pagesFor record.resultsCount replayPageSize) replayPageSize := by
  constructor
  · intro h
    unfold replayRequest at h
    split at h
    · next hexportable =>
      rw [HistoryRecord.isExportable, Bool.and_eq_true, decide_eq_true_eq] at hexportable
      obtain ⟨hsuccess, hfound⟩ := hexportable
      split at h
      · cases h
      · next p hplatform =>
        dsimp only at h
        split at h
        · cases h
        · cases hcheck : (ExportRequest.new record.query
              (pagesFor record.resultsCount replayPageSize) replayPageSize).check with
          | error e =>
            rw [hcheck] at h
            cases h
          | ok u =>
            rw [hcheck] at h
            cases h
            exact ⟨⟨hsuccess, hfound, hplatform, (check_replay hfound).1 hcheck⟩, rfl⟩
    · cases h
  · rintro ⟨⟨hsuccess, hfound, hplatform, hquery⟩, rfl⟩
    have hexportable : record.isExportable = true := by
      rw [HistoryRecord.isExportable, hsuccess, decide_eq_true hfound]
      rfl
    have hpages : pagesFor record.resultsCount replayPageSize ≠ 0 :=
      Nat.one_le_iff_ne_zero.1 (one_le_pagesFor hfound (by decide))
    rw [replayRequest, if_pos hexportable, HistoryRecord.platformKind, hplatform]
    dsimp only
    rw [if_neg hpages, (check_replay hfound).2 hquery]
    rfl

/-- The export of a task on one platform gives one command. -/
theorem commands_runTask (b : Backend σ) (task : Task) (platform : Platform) (r : ExportRequest)
    (tracker : Nat) (s : Site σ) :
    (runTask b task .platform platform r tracker s).2.commands
      = s.commands ++ [.exportPlatform task.id platform r] := by
  rw [runTask_eq b (by decide)]
  exact Site.commands_invoke b (.exportPlatform task.id platform r)
    (start task .platform platform r tracker s).2

/-- **The export of a past query covers what it found.**  A past query that succeeded, found
something and has a platform and a query to be exported with, is exported by one command: for that
platform, the query as it is, without dates, and a hundred results on each page.  Its pages are as
few as hold everything that was found, and the largest number of 32 bits if those are more.  No
other past query gives a command, or changes anything.  In general, counting pages in words gives as
few pages as hold the results, within 32 bits, and the quotient that it rounds up is not cut off
before. -/
theorem replay_covers_record (b : Backend σ) (source : Nat) (record : HistoryRecord)
    (tracker : Nat) (s : Site σ) :
    let s' := (replay b source record tracker s).2
    (∀ platform, record.ReplaysOn platform →
      ∃ pages, FewestWithin record.resultsCount 100 pages ∧
        s'.commands = s.commands ++
          [.exportPlatform (Task.platformExportId platform (s.nextStamp source).1) platform
            ⟨record.query, pages, 100, .all, none, none⟩]) ∧
    ((∀ platform, ¬ record.ReplaysOn platform) → s' = s) ∧
    (∀ (results : UInt64) (pageSize : UInt32), pageSize ≠ 0 →
      Fewest results.toNat pageSize.toNat (divUp results pageSize.toUInt64).toNat ∧
      FewestWithin results.toNat pageSize.toNat (pagesInWords results pageSize).toNat ∧
      (pagesInWords results pageSize).toNat = pagesFor results.toNat pageSize.toNat) := by
  intro s'
  refine ⟨?_, ?_, ?_⟩
  · intro platform h
    have hrequest := (replayRequest_eq_ok_iff record platform _).2 ⟨h, rfl⟩
    refine ⟨pagesFor record.resultsCount 100, fewestWithin_pagesFor _ (by decide), ?_⟩
    show (replay b source record tracker s).2.commands = _
    rw [replay, hrequest]
    exact commands_runTask b _ platform _ tracker (s.nextStamp source).2
  · intro h
    show (replay b source record tracker s).2 = s
    rw [replay]
    cases hrequest : replayRequest record with
    | error e => rfl
    | ok x => exact absurd ((replayRequest_eq_ok_iff record x.1 x.2).1 hrequest).1 (h x.1)
  · intro results pageSize hsize
    refine ⟨fewest_divUp results hsize, ?_, toNat_pagesInWords results pageSize⟩
    rw [toNat_pagesInWords]
    exact fewestWithin_pagesFor results.toNat (toNat_pos hsize)

/-- A backend that writes every export to one file. -/
def writing : Backend Unit
  | .exportPlatform .., _ => (⟨[], .ok "export.xlsx"⟩, ())
  | _, _ => (⟨[], .error .zeroPages⟩, ())

/-- As many results as a word counts, of a platform written with capitals and blanks: more than the
pages that can be asked for would hold.  And the largest word in pairs, for which the quotient is
rounded up. -/
theorem replay_covers_record_largest :
    let day : Date := ⟨2024, 1, 1, by decide, by decide, by decide⟩
    let record : HistoryRecord :=
      ⟨"h", " Fofa", " port=80", 18446744073709551615, ⟨day, 0, 0⟩, true, none⟩
    let s : Site Unit := ⟨(), .new [.new "Export" true], [0, 7], 1000, []⟩
    record.ReplaysOn .fofa ∧
      (replay writing 1 record 0 s).2.commands = [.exportPlatform "export_fofa_1000" .fofa
        ⟨" port=80", 4294967295, 100, .all, none, none⟩] ∧
      (2 : UInt32) ≠ 0 ∧ Fewest 18446744073709551615 2 9223372036854775808 := by
  intro day record s
  have hreplays : record.ReplaysOn .fofa :=
    ⟨rfl, by decide, by decide +kernel, by decide +kernel⟩
  have h := replay_covers_record writing 1 record 0 s
  obtain ⟨pages, ⟨fewest, hfewest, rfl⟩, hcommands⟩ := h.1 .fofa hreplays
  obtain rfl := hfewest.unique (fewest_ceilDiv 18446744073709551615 (by decide))
  exact ⟨hreplays, hcommands.trans (by decide +kernel), by decide,
    (h.2.2 18446744073709551615 2 (by decide)).1⟩

end Export

end AssetSearch
