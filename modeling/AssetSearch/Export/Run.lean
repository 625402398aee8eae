/-
# Exports

An export writes the results of a query to a file, for one platform or for all of them.  The export
of one platform is shown by the events that the backend sends meanwhile; that of all platforms sends
none and ends with one update of its own.  A rejected command is shown as a failure in both.

Key definitions: `Export.start`, `Export.finishPlatform`, `Export.run` (an export), `Export.replay`
(the export of a past query) and `Export.cancel`.
-/
import AssetSearch.Backend.Site
import AssetSearch.Task

namespace AssetSearch

/-- Which results are exported. -/
inductive ExportScope where
  /-- The pages on display. -/
  | current
  /-- All that a platform has. -/
  | platform
  /-- All that every platform has. -/
  | all
  deriving DecidableEq, Repr

namespace ExportScope

/-- The name of a scope in the log. -/
def label : ExportScope → String
  | current => "current"
  | platform => "platform"
  | all => "all"

end ExportScope

/-- A finished export; an export of all platforms names no file. -/
structure ExportResult where
  task : Task
  path : Option String
  deriving DecidableEq, Repr

namespace Export

open Progress (Tracker)

variable {σ : Type}

/-! ## One export -/

/-- What is shown before the backend is asked. -/
def announce (taskId : String) (scope : ExportScope) (platform : Platform) (r : ExportRequest)
    (t : Tracker) : Tracker :=
  let name := platform.displayName
  (t.begin taskId "Preparing export...").log
    s!"Export started: scope={scope.label}, platform={name}, pages={r.pages}" .info

/-- Shows the failure of a rejected command. -/
def showFailure {α : Type} (outcome : Outcome α) (t : Tracker) : Tracker :=
  match outcome with
  | .ok _ => t
  | .error e => (t.fail e.userMessage).2

/-- Shows that all platforms are being exported. -/
def announceAll (t : Tracker) : Tracker :=
  t.setProgress (.zero false) "Exporting all platforms..."

/-- Shows how the export of all platforms ended. -/
def concludeAll (outcome : Outcome Unit) (t : Tracker) : Tracker :=
  match outcome with
  | .ok _ =>
    t.finish .success (.ofWord 100) "All platforms exported"
      (some ⟨"All platforms exported", .success⟩)
  | .error e => (t.fail e.userMessage).2

/-- Starts the export of a platform on a tracker: the display is opened, and the tracker listens to
the bus.  Also the id of its subscription. -/
def start (task : Task) (scope : ExportScope) (platform : Platform) (r : ExportRequest)
    (tracker : Nat) (s : Site σ) : Nat × Site σ :=
  let s := s.update tracker (announce task.id scope platform r)
  let (subscription, board) := s.board.attach tracker
  (subscription, { s with board := board })

/-- Ends the export of a platform: the tracker stops listening, and a failure is shown. -/
def finishPlatform (task : Task) (tracker subscription : Nat) (outcome : Outcome String)
    (s : Site σ) : Outcome ExportResult × Site σ :=
  let s := { s with board := s.board.dispose subscription }
  (outcome.map fun path => ⟨task, some path⟩, s.update tracker (showFailure outcome))

/-- Runs the export of a task. -/
def runTask (b : Backend σ) (task : Task) (scope : ExportScope) (platform : Platform)
    (r : ExportRequest) (tracker : Nat) (s : Site σ) : Outcome ExportResult × Site σ :=
  match scope with
  | .all =>
    let s := s.update tracker fun t => announceAll (announce task.id .all platform r t)
    let (outcome, s) := s.invoke b (.exportAll r)
    (Except.map (fun _ => ⟨task, none⟩) outcome, s.update tracker (concludeAll outcome))
  | scope =>
    let (subscription, s) := start task scope platform r tracker s
    let (outcome, s) := s.invoke b (.exportPlatform task.id platform r)
    finishPlatform task tracker subscription outcome s

/-- Runs an export; `source` names the source of its task id. -/
def run (b : Backend σ) (source : Nat) (scope : ExportScope) (platform : Platform)
    (r : ExportRequest) (tracker : Nat) (s : Site σ) : Outcome ExportResult × Site σ :=
  match r.check with
  | .error e => (.error e, s)
  | .ok () =>
    let (stamp, s) := s.nextStamp source
    let bound := if scope = .all then none else some platform
    runTask b ⟨Task.exportId stamp, .exporting, bound, r.query⟩ scope platform r tracker s

/-! ## Past queries -/

/-- The page size of the export of a past query. -/
def replayPageSize : Nat :=
  100

/-- What the export of a past query asks for, with the platform: everything that was found. -/
def replayRequest (record : HistoryRecord) : Outcome (Platform × ExportRequest) :=
  if record.isExportable then
    match record.platformKind with
    | .error e => .error e
    | .ok platform =>
      let pages := pagesFor record.resultsCount replayPageSize
      if pages = 0 then .error .zeroPages
      else
        let r := ExportRequest.new record.query pages replayPageSize
        r.check.map fun _ => (platform, r)
  else
    .error (.invalidField "history_record"
      (s!"record {record.id} cannot be exported " ++
        s!"(success: {record.success}, results: {record.resultsCount})"))

/-- Exports a past query again. -/
def replay (b : Backend σ) (source : Nat) (record : HistoryRecord) (tracker : Nat) (s : Site σ) :
    Outcome ExportResult × Site σ :=
  match replayRequest record with
  | .error e => (.error e, s)
  | .ok (platform, r) =>
    let (stamp, s) := s.nextStamp source
    let task : Task :=
      ⟨Task.platformExportId platform stamp, .exporting, some platform, record.query⟩
    runTask b task .platform platform r tracker s

/-- Asks the backend to cancel an export; what becomes of it, its events show. -/
def cancel (b : Backend σ) (taskId : String) (s : Site σ) : Outcome Unit × Site σ :=
  s.invoke b (.cancelExport taskId)

end Export

end AssetSearch
