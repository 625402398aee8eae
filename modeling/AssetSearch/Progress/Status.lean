/-
# The state of a task

A task is prepared, runs, and ends in one of three ways.  What it reports on the way carries a
severity.

Key definitions: `Progress.Status` with `isTerminal` and `isClosable`, `Progress.Severity`.
-/
import AssetSearch.Json.Decode
import AssetSearch.Text.Lowercase

namespace AssetSearch.Progress

/-! ## Status -/

/-- Where a task stands. -/
inductive Status where
  | idle
  | running
  | success
  | error
  | cancelled
  deriving DecidableEq, Repr, Inhabited

namespace Status

/-- Every status. -/
def all : List Status :=
  [idle, running, success, error, cancelled]

/-- The name of a status in data. -/
def key : Status → String
  | idle => "idle"
  | running => "running"
  | success => "success"
  | error => "error"
  | cancelled => "cancelled"

/-- The name of a status as it is shown. -/
def label : Status → String
  | idle => "Preparing"
  | running => "In progress"
  | success => "Completed"
  | error => "Failed"
  | cancelled => "Cancelled"

/-- Whether the task has ended. -/
def isTerminal : Status → Bool
  | success | error | cancelled => true
  | idle | running => false

/-- Whether the operator may put the task's display away. -/
def isClosable : Status → Bool
  | running => false
  | _ => true

/-- The status as data. -/
def toJson (s : Status) : Json :=
  .string s.key

/-- Reads a status from data. -/
def ofJson : Json → Decoded Status :=
  Json.toChoice (all.map fun s => (s.key, s))

end Status

/-! ## Severity -/

/-- How much a line of the log matters. -/
inductive Severity where
  | info
  | success
  | error
  | warning
  deriving DecidableEq, Repr, Inhabited

namespace Severity

/-- Every severity. -/
def all : List Severity :=
  [info, success, error, warning]

/-- The name of a severity. -/
def key : Severity → String
  | info => "info"
  | success => "success"
  | error => "error"
  | warning => "warning"

/-- The severity that a text names, whatever its case; any other text, and none, is `info`. -/
def parse (s : Option String) : Severity :=
  match s with
  | none => info
  | some text => ((all.find? fun v => v.key == Text.lower text)).getD info

/-- The severity as data. -/
def toJson (s : Severity) : Json :=
  .string s.key

/-- Reads a severity from data: only its exact name counts. -/
def ofJson : Json → Decoded Severity :=
  Json.toChoice (all.map fun s => (s.key, s))

end Severity

end AssetSearch.Progress
