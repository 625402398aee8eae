/-
# Searches

A search runs a query on a platform and gives one page of the matches.  On a tracker it is shown at
30 percent while it is prepared and at 60 percent while the backend works; it sends no events, so it
ends with one update of its own.

Key definitions: `Search.run`.
-/
import AssetSearch.Backend.Site

namespace AssetSearch.Search

open Progress (Tracker Snapshot)

variable {σ : Type}

/-- A whole number of percent. -/
def percent (n : Nat) : Double :=
  .ofWord n

/-- What is shown before the backend is asked. -/
def announce (taskId : String) (r : SearchRequest) (t : Tracker) : Tracker :=
  let name := r.platform.displayName
  (((t.begin taskId "Preparing search...").setProgress (percent 30) "Preparing search...").log
    s!"Searching {name}: {r.query}" .info).setProgress (percent 60) s!"Querying {name}..."

/-- What is shown at the end. -/
def conclude (outcome : Outcome SearchPage) (t : Tracker) : Tracker :=
  match outcome with
  | .ok page =>
    let shown := page.results.length
    t.finish .success (percent 100) s!"Found {page.total} results"
      (some ⟨s!"Search finished: {page.total} total, {shown} on this page", .success⟩)
  | .error e =>
    let text := Snapshot.failureText e.userMessage
    t.finish .error (percent 100) text (some ⟨text, .error⟩)

/-- Changes a tracker, if there is one. -/
def onTracker (tracker : Option Nat) (f : Tracker → Tracker) (s : Site σ) : Site σ :=
  match tracker with
  | none => s
  | some i => s.update i f

/-- Runs a search; `source` names the source of its task id. -/
def run (b : Backend σ) (source : Nat) (r : SearchRequest) (tracker : Option Nat) (s : Site σ) :
    Outcome SearchPage × Site σ :=
  if Text.blank r.query then (.error (.emptyInput "query"), s)
  else
    let (stamp, s) := s.nextStamp source
    let s := onTracker tracker (announce (Task.searchId stamp) r) s
    let (outcome, s) := s.invoke b (.search r)
    (outcome, onTracker tracker (conclude outcome) s)

end AssetSearch.Search
