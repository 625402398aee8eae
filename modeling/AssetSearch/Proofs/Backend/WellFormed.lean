/-
# Commands that make sense

What every command of the program to its backend keeps to: queries, keys and emails are not blank,
exports have pages, page sizes are positive, and an email goes with the keys of an account only.
The guards of the operations let just such inputs through, and refuse all others for a local reason.

Key definitions: `Text.Filled`, `ExportRequest.Complete`, `Platform.Pairs`, `Command.WellFormed`,
`Guards`.  Key statements: `guards_check`, `guards_replayRequest`, `Keys.guards_checked`,
`guards_trimmedQuery`.
-/
import AssetSearch.Export.Run
import AssetSearch.Keys.Manage
import AssetSearch.Translation.Convert

namespace AssetSearch

/-! ## Texts -/

/-- A text that is trimmed and not empty. -/
structure Text.Filled (s : String) : Prop where
  nonempty : s ≠ ""
  start : ∀ c, s.toList.head? = some c → Text.isBlank c = false
  finish : ∀ c, s.toList.getLast? = some c → Text.isBlank c = false

namespace Text

theorem filled_ofList_strip {s : List Char} (h : strip s ≠ []) :
    Filled (String.ofList (strip s)) where
  nonempty := by
    intro hempty
    exact h (by simpa using congrArg String.toList hempty)
  start := by
    rw [String.toList_ofList]
    exact (strip_nonblank_ends s).1
  finish := by
    rw [String.toList_ofList]
    exact (strip_nonblank_ends s).2

theorem filled_trim {s : String} (h : blank s = false) : Filled (trim s) := by
  refine filled_ofList_strip ?_
  rw [Ne, strip_eq_nil_iff, ← blank_iff, h]
  decide

theorem filled_of_filled? {s t : String} (h : filled? s = some t) : Filled t := by
  cases hs : blank s with
  | true => simp [filled?, hs] at h
  | false =>
    obtain rfl : trim s = t := by simpa [filled?, hs] using h
    exact filled_trim hs

/-- A text is not blank if something is left of it after trimming. -/
theorem blank_eq_false_of_trim {s : String} (h : blank (trim s) = false) : blank s = false := by
  cases hs : blank s with
  | false => rfl
  | true =>
    rw [(trim_eq_empty_iff s).2 hs] at h
    exact absurd h (by decide)

end Text

/-! ## Requests -/

/-- An export request with a query, a page and a page size. -/
structure ExportRequest.Complete (r : ExportRequest) : Prop where
  query : Text.blank r.query = false
  pages : 1 ≤ r.pages
  pageSize : 1 ≤ r.pageSize

/-- A search request with a trimmed query, a page and a page size. -/
structure SearchRequest.Complete (r : SearchRequest) : Prop where
  query : Text.Filled r.query
  page : 1 ≤ r.page
  pageSize : 1 ≤ r.pageSize

/-- The email that goes with a key: a filled one on the platform that needs it, and none
elsewhere. -/
def Platform.Pairs (platform : Platform) (email : Option String) : Prop :=
  (platform = .fofa ↔ email.isSome) ∧ ∀ e, email = some e → Text.Filled e

namespace Command

/-- What every command keeps to, whoever gives it, while a theme is in use. -/
def WellFormed (theme : Theme) : Command → Prop
  | search r => Text.blank r.query = false
  | exportPlatform _ _ r => r.Complete
  | exportAll r => r.Complete
  | validateQuery query _ => Text.Filled query
  | convert query _ _ => Text.Filled query
  | convertToAll query _ => Text.Filled query
  | addKey platform key email => Text.Filled key ∧ platform.Pairs email
  | deleteKey platform key email => Text.Filled key ∧ platform.Pairs email
  | validateKey platform key email => Text.Filled key ∧ platform.Pairs email
  | saveSettings s => 1 ≤ s.pageSize ∧ s.theme = theme
  | _ => True

/-- An export that is complete. -/
inductive Exports : Command → Prop where
  | platform (taskId : String) (platform : Platform) {r : ExportRequest} (complete : r.Complete) :
    Exports (.exportPlatform taskId platform r)
  | all {r : ExportRequest} (complete : r.Complete) : Exports (.exportAll r)

theorem Exports.wellFormed {c : Command} (h : c.Exports) (theme : Theme) : c.WellFormed theme := by
  cases h with
  | platform _ _ hr => exact hr
  | all hr => exact hr

end Command

/-! ## Guards -/

/-- A check lets through what has a property, and refuses the rest for a local reason. -/
inductive Guards {α : Type} (Q : α → Prop) : Outcome α → Prop where
  | refused {e : Failure} (local_ : e.isLocalGuard = true) : Guards Q (.error e)
  | passed {a : α} (holds : Q a) : Guards Q (.ok a)

namespace Guards

variable {α β : Type} {Q : α → Prop}

theorem isLocalGuard {e : Failure} (h : Guards Q (.error e)) : e.isLocalGuard = true := by
  cases h with
  | refused he => exact he

theorem holds {a : α} (h : Guards Q (.ok a)) : Q a := by
  cases h with
  | passed ha => exact ha

theorem map {R : β → Prop} {f : α → β} {o : Outcome α} (h : Guards Q o) (hf : ∀ a, Q a → R (f a)) :
    Guards R (o.map f) := by
  cases h with
  | refused he => exact .refused he
  | passed ha => exact .passed (hf _ ha)

end Guards

theorem guards_check (r : ExportRequest) : Guards (fun _ => r.Complete) r.check := by
  unfold ExportRequest.check
  split
  · exact .refused rfl
  · next hquery =>
    split
    · exact .refused rfl
    · split
      · exact .refused rfl
      · exact .passed ⟨by simpa using hquery, by omega, by omega⟩

theorem guards_parse (s : String) : Guards (fun _ => True) (Platform.parse s) := by
  unfold Platform.parse
  split
  · exact .passed trivial
  · exact .refused rfl

/-- What is exported of a past query. -/
theorem guards_replayRequest (record : HistoryRecord) :
    Guards (fun x => x.2.Complete) (Export.replayRequest record) := by
  unfold Export.replayRequest
  split
  · split
    · next e hplatform =>
      have hparse := guards_parse record.platform
      rw [HistoryRecord.platformKind] at hplatform
      rw [hplatform] at hparse
      exact .refused hparse.isLocalGuard
    · dsimp only
      split
      · exact .refused rfl
      · exact (guards_check _).map fun _ hcomplete => hcomplete
  · exact .refused rfl

theorem guards_trimmedQuery (query : String) : Guards Text.Filled (trimmedQuery query) := by
  unfold trimmedQuery
  split
  · next q hquery => exact .passed (Text.filled_of_filled? hquery)
  · exact .refused rfl

namespace Keys

theorem guards_checkedEmail (platform : Platform) (email : Option String) :
    Guards platform.Pairs (checkedEmail platform email) := by
  unfold checkedEmail
  split
  · next hneeds =>
    have hfofa : platform = .fofa := by
      cases platform <;> first | rfl | cases hneeds
    split
    · next e hfilled =>
      obtain ⟨text, -, htext⟩ := Option.bind_eq_some_iff.1 hfilled
      refine .passed ⟨by simp [hfofa], ?_⟩
      rintro _ ⟨⟩
      exact Text.filled_of_filled? htext
    · exact .refused rfl
  · next hneeds =>
    have hfofa : platform ≠ .fofa := by
      rintro rfl
      exact hneeds rfl
    exact .passed ⟨by simp [hfofa], by simp⟩

/-- A key and its email as they are sent. -/
theorem guards_checked (platform : Platform) (key : String) (email : Option String) :
    Guards (fun x => Text.Filled x.1 ∧ platform.Pairs x.2) (checked platform key email) := by
  unfold checked checkedKey
  cases hkey : Text.filled? key with
  | none => exact .refused rfl
  | some k =>
    refine (guards_checkedEmail platform email).map fun sent hpairs => ?_
    exact ⟨Text.filled_of_filled? hkey, hpairs⟩

/-- The keys of a batch are trimmed and not empty. -/
theorem filled_of_mem_parseBatch {text key : String} (h : key ∈ parseBatch text) :
    Text.Filled key := by
  obtain ⟨line, hline, rfl⟩ := List.mem_map.1 h
  obtain ⟨hmem, hfilled⟩ := List.mem_filter.1 hline
  obtain ⟨raw, -, rfl⟩ := List.mem_map.1 hmem
  exact Text.filled_ofList_strip (by simpa using hfilled)

end Keys

end AssetSearch
