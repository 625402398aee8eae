/-
# Progress events

What a running job reports: how far the task with a given id is, perhaps with a line for its log
and with counters.

Key definitions: `Progress.Event`, `Event.summary` (the counters that the event carries),
`Event.ofJson` and `Event.toJson`.
-/
import AssetSearch.Progress.Status
import AssetSearch.Progress.Summary

namespace AssetSearch.Progress

/-! ## Events -/

/-- One report on a task. -/
structure Event where
  taskId : String
  percent : Double
  status : Status
  statusText : String
  logMessage : Option String
  /-- The severity of the log line, as the job names it. -/
  logType : Option String
  currentPage : Option Nat
  totalPages : Option Nat
  totalResults : Option Nat
  fetchedResults : Option Nat
  deriving DecidableEq, Inhabited

namespace Event

/-- A report without log line and counters. -/
def new (taskId : String) (percent : Double) (status : Status) (statusText : String) : Event where
  taskId := taskId
  percent := percent
  status := status
  statusText := statusText
  logMessage := none
  logType := none
  currentPage := none
  totalPages := none
  totalResults := none
  fetchedResults := none

/-- The report with a log line. -/
def withLog (e : Event) (message : String) (severity : Severity) : Event :=
  { e with logMessage := some message, logType := some severity.key }

/-- The report with the page counters. -/
def withPages (e : Event) (current total : Option Nat) : Event :=
  { e with currentPage := current, totalPages := total }

/-- The report with the result counters. -/
def withResults (e : Event) (total fetched : Option Nat) : Event :=
  { e with totalResults := total, fetchedResults := fetched }

/-! ## Counters -/

/-- The value of a counter, if the report carries it. -/
def count? (e : Event) : Counter → Option Nat
  | .totalPages => e.totalPages
  | .currentPage => e.currentPage
  | .totalResults => e.totalResults
  | .fetched => e.fetchedResults

/-- The counters that the report carries, in the order of a summary. -/
def summary (e : Event) : List SummaryItem :=
  Counter.all.filterMap fun c => (e.count? c).map fun n => ⟨c, n⟩

/-- Whether the report carries any counter. -/
def hasCounters (e : Event) : Bool :=
  e.currentPage.isSome || e.totalPages.isSome || e.totalResults.isSome || e.fetchedResults.isSome

/-! ## Data -/

/-- The report as data. -/
def toJson (e : Event) : Json :=
  .object <|
    Json.member "taskId" (.string e.taskId) ++
    Json.member "percent" (.ofDouble e.percent) ++
    Json.member "status" e.status.toJson ++
    Json.member "statusText" (.string e.statusText) ++
    Json.memberIfSome "logMessage" .string e.logMessage ++
    Json.memberIfSome "logType" .string e.logType ++
    Json.memberIfSome "currentPage" .ofNat e.currentPage ++
    Json.memberIfSome "totalPages" .ofNat e.totalPages ++
    Json.memberIfSome "totalResults" .ofNat e.totalResults ++
    Json.memberIfSome "fetchedResults" .ofNat e.fetchedResults

/-- How a report is read. -/
def reader : RecordReader Event :=
  mk <$> .required "taskId" Json.toStr
    <*> .required "percent" Json.toDouble
    <*> .required "status" Status.ofJson
    <*> .optional "statusText" "" Json.toStr
    <*> .optional "logMessage" none (Json.toOption Json.toStr)
    <*> .optional "logType" none (Json.toOption Json.toStr)
    <*> .optional "currentPage" none (Json.toOption Json.toNat32)
    <*> .optional "totalPages" none (Json.toOption Json.toNat32)
    <*> .optional "totalResults" none (Json.toOption Json.toNat64)
    <*> .optional "fetchedResults" none (Json.toOption Json.toNat64)

/-- Reads a report from data. -/
def ofJson : Json → Decoded Event :=
  reader.read "ProgressEvent"

end Event

end AssetSearch.Progress
