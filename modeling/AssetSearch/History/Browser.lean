/-
# Browsing past queries

The list of past queries as it was last loaded, a filter over it, and the tracker on which a past
query is exported again.

Key definitions: `Browser`, `Browser.reload`, `Browser.delete`, `Browser.clear`, `Browser.visible`,
`Browser.writeTo` and `Browser.exportRecord`.
-/
import AssetSearch.Export.Run

namespace AssetSearch

/-- The numbers of records. -/
structure HistoryStats where
  total : Nat
  succeeded : Nat
  failed : Nat
  deriving DecidableEq, Repr

/-- The view of past queries. -/
structure Browser where
  records : List HistoryRecord
  filter : HistoryFilter
  /-- The number of the tracker for exports. -/
  tracker : Nat
  /-- The number of the source of task ids. -/
  source : Nat

namespace Browser

open Progress (Tracker)

variable {σ : Type}

/-- A view that has not loaded anything. -/
def new (tracker source : Nat) : Browser :=
  ⟨[], .all, tracker, source⟩

/-- The tracker for exports: its display is put away three seconds after the end. -/
def newTracker (canWait : Bool) : Tracker :=
  (Tracker.new "Export history record" canWait).withPolicy (.after 3000)

/-! ## The list -/

/-- Changes the filter. -/
def setFilter (v : Browser) (filter : HistoryFilter) : Browser :=
  { v with filter := filter }

/-- The records that the filter shows. -/
def visible (v : Browser) : List HistoryRecord :=
  v.records.filter v.filter.accepts

/-- The first record with an id. -/
def find? (v : Browser) (id : String) : Option HistoryRecord :=
  v.records.find? fun r => r.id == id

/-- The numbers of records. -/
def stats (v : Browser) : HistoryStats :=
  let succeeded := (v.records.filter fun r => r.success).length
  ⟨v.records.length, succeeded, v.records.length - succeeded⟩

/-- Loads the list from the backend. -/
def reload (b : Backend σ) (v : Browser) (s : Site σ) :
    Outcome (List HistoryRecord) × Browser × Site σ :=
  match s.invoke b .history with
  | (.ok records, s) => (.ok records, { v with records := records }, s)
  | (.error e, s) => (.error e, v, s)

/-- Loads the list after a change in the backend; if that fails, the list is changed here. -/
def refresh (b : Backend σ) (change : List HistoryRecord → List HistoryRecord) (v : Browser)
    (s : Site σ) : Browser × Site σ :=
  match v.reload b s with
  | (.ok _, v, s) => (v, s)
  | (.error _, v, s) => ({ v with records := change v.records }, s)

/-- Deletes the records with an id. -/
def delete (b : Backend σ) (id : String) (v : Browser) (s : Site σ) :
    Outcome Unit × Browser × Site σ :=
  match s.invoke b (.deleteHistory id) with
  | (.error e, s) => (.error e, v, s)
  | (.ok _, s) =>
    let (v, s) := v.refresh b (fun rs => rs.filter fun r => r.id ≠ id) s
    (.ok (), v, s)

/-- Deletes all records. -/
def clear (b : Backend σ) (v : Browser) (s : Site σ) : Outcome Unit × Browser × Site σ :=
  match s.invoke b .clearHistory with
  | (.error e, s) => (.error e, v, s)
  | (.ok _, s) =>
    let (v, s) := v.refresh b (fun _ => []) s
    (.ok (), v, s)

/-! ## Exports -/

/-- Lets the backend write the history to a file; also its path. -/
def writeTo (b : Backend σ) (directory : String) (v : Browser) (s : Site σ) :
    Outcome String × Site σ :=
  if v.records.isEmpty then (.error (.emptyInput "history"), s)
  else s.invoke b (.writeHistory directory)

/-- Exports the record with an id again. -/
def exportRecord (b : Backend σ) (id : String) (v : Browser) (s : Site σ) :
    Outcome ExportResult × Site σ :=
  match v.find? id with
  | none => (.error (.invalidField "id" s!"no history record {id}"), s)
  | some record =>
    if record.isExportable then Export.replay b v.source record v.tracker s
    else
      (.error (.invalidField "history_record"
        "only successful queries with results can be exported"), s)

end Browser

end AssetSearch
