/-
# What is shown of a task

Everything that the display of a task's progress needs: whether it is open, the task, its status and
text, its log and its counters.
-/
import AssetSearch.Progress.Log

namespace AssetSearch.Progress

/-- The display of one task. -/
structure Snapshot where
  isOpen : Bool
  title : String
  taskId : Option String
  status : Status
  percent : Double
  statusText : String
  logs : List LogLine
  summary : List SummaryItem
  /-- Whether a running task may be cancelled from the display. -/
  cancellable : Bool
  /-- Counts the changes. -/
  revision : Nat
  deriving DecidableEq, Inhabited

namespace Snapshot

/-- A display that is not open. -/
def new (title : String) : Snapshot where
  isOpen := false
  title := title
  taskId := none
  status := .idle
  percent := .zero false
  statusText := ""
  logs := []
  summary := []
  cancellable := false
  revision := 0

/-- Shows a new task from its start. -/
def begin (s : Snapshot) (taskId statusText : String) : Snapshot :=
  { s with
    isOpen := true
    taskId := some taskId
    status := .running
    percent := .zero false
    statusText := statusText
    logs := []
    summary := [] }

/-- Appends a line to the log. -/
def append (s : Snapshot) (line : LogLine) : Snapshot :=
  { s with logs := s.logs ++ [line] }

/-- Shows what an event reports.  Percent, status and text are those of the event; the log grows by
its line, if it has one; the counters are replaced if it carries any. -/
def apply (s : Snapshot) (e : Event) : Snapshot :=
  { s with
    percent := e.percent
    status := e.status
    statusText := e.statusText
    logs := s.logs ++ e.logLine?.toList
    summary := if e.summary.isEmpty then s.summary else e.summary }

/-- Shows how far a task is that sends no events. -/
def setProgress (s : Snapshot) (percent : Double) (statusText : String) : Snapshot :=
  { s with percent := percent, statusText := statusText }

/-- Shows the end of a task that sends no events. -/
def finish (s : Snapshot) (status : Status) (percent : Double) (statusText : String)
    (line : Option LogLine) : Snapshot :=
  { s with
    status := status
    percent := percent
    statusText := statusText
    logs := s.logs ++ line.toList }

/-- The text of a failure. -/
def failureText (message : String) : String :=
  "Failed: " ++ message

/-- Shows a failure: it is logged in any case, and becomes the status unless the task has ended. -/
def fail (s : Snapshot) (message : String) : Snapshot :=
  let text := failureText message
  let line : LogLine := ⟨text, .error⟩
  if s.status.isTerminal then s.append line
  else { s with status := .error, statusText := text }.append line

/-- Puts the display away. -/
def close (s : Snapshot) : Snapshot :=
  { s with isOpen := false }

/-- The snapshot of the next revision. -/
def bump (s : Snapshot) : Snapshot :=
  { s with revision := s.revision + 1 }

end Snapshot

end AssetSearch.Progress
