/-
# The query view

A query that is being written, the page of results on display, and the trackers for searching and
for exporting.

Key definitions: `Workspace`, `Workspace.search`, `Workspace.changePage`,
`Workspace.switchPlatform`, `Workspace.exportCurrent` and `Workspace.cancelExport`.
-/
import AssetSearch.Export.Run
import AssetSearch.Query.Composer
import AssetSearch.Search

namespace AssetSearch

/-- The view of a query and its results. -/
structure Workspace where
  composer : Composer
  results : SearchPage
  /-- Counted from 1. -/
  page : Nat
  pageSize : Nat
  /-- The number of the tracker for searches. -/
  searchTracker : Nat
  /-- The number of the tracker for exports. -/
  exportTracker : Nat
  /-- The number of the source of task ids. -/
  source : Nat

namespace Workspace

open Progress (Tracker)

variable {σ : Type}

/-- A page without results. -/
def noResults : SearchPage :=
  ⟨0, []⟩

/-- An empty view for a platform. -/
def new (platform : Platform) (pageSize searchTracker exportTracker source : Nat) : Workspace :=
  ⟨.new platform, noResults, 1, max pageSize 1, searchTracker, exportTracker, source⟩

/-- The tracker for searches. -/
def newSearchTracker (canWait : Bool) : Tracker :=
  .new "Search" canWait

/-- The tracker for exports, which may be cancelled. -/
def newExportTracker (canWait : Bool) : Tracker :=
  (Tracker.new "Export" canWait).withCancel true

/-! ## The query -/

/-- The platform of the query. -/
def platform (w : Workspace) : Platform :=
  w.composer.platform

/-- Edits the query. -/
def edit (w : Workspace) (f : Composer → Composer) : Workspace :=
  { w with composer := f w.composer }

/-- Filters the query by a location; also whether there was one. -/
def applyLocation (w : Workspace) (location : Query.Location) (append : Bool) : Bool × Workspace :=
  let (applied, composer) := w.composer.applyLocation location append
  (applied, { w with composer := composer })

/-- Starts anew for another platform. -/
def switchPlatform (w : Workspace) (platform : Platform) : Workspace :=
  { w with composer := w.composer.switchPlatform platform, results := noResults, page := 1 }

/-! ## Searching -/

/-- Runs the query for a page. -/
def runSearch (b : Backend σ) (page : Nat) (w : Workspace) (s : Site σ) :
    Outcome SearchPage × Workspace × Site σ :=
  let r : SearchRequest := ⟨w.platform, Text.trim w.composer.text, page, w.pageSize⟩
  match Search.run b w.source r (some w.searchTracker) s with
  | (.ok results, s) => (.ok results, { w with results := results, page := page }, s)
  | (.error e, s) => (.error e, w, s)

/-- Runs the query for its first page. -/
def search (b : Backend σ) (w : Workspace) (s : Site σ) : Outcome SearchPage × Workspace × Site σ :=
  w.runSearch b 1 s

/-- Turns to another page, or to pages of another size. -/
def changePage (b : Backend σ) (page pageSize : Nat) (w : Workspace) (s : Site σ) :
    Outcome SearchPage × Workspace × Site σ :=
  if pageSize = 0 then
    (.error (.invalidField "page_size" "page size must be positive"), w, s)
  else { w with pageSize := pageSize }.runSearch b (max page 1) s

/-! ## Exporting -/

/-- Exports the results on display. -/
def exportCurrent (b : Backend σ) (w : Workspace) (s : Site σ) : Outcome ExportResult × Site σ :=
  if w.results.isEmpty then (.error (.emptyInput "results"), s)
  else
    Export.run b w.source .current w.platform
      (.new (Text.trim w.composer.text) 1 w.pageSize) w.exportTracker s

/-- Cancels the running export. -/
def cancelExport (b : Backend σ) (w : Workspace) (s : Site σ) : Outcome Unit × Site σ :=
  let shown := (s.tracker w.exportTracker).snapshot
  match shown.taskId with
  | some taskId =>
    if shown.status = .running then Export.cancel b taskId s
    else (.error (.invalidField "export" "no export is running"), s)
  | none => (.error (.invalidField "export" "no export is running"), s)

end Workspace

end AssetSearch
