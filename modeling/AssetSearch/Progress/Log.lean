/-
# The log of a task

Lines with a severity, and the same lines with the time at which they came.

Key definitions: `Progress.LogLine`, `Event.logLine?`, `Progress.LogEntry`.
-/
import AssetSearch.Calendar.Timestamp
import AssetSearch.Progress.Event

namespace AssetSearch.Progress

/-- A line of a log. -/
structure LogLine where
  message : String
  severity : Severity
  deriving DecidableEq, Repr, Inhabited

/-- The line that an event adds to the log: none without a message or with an empty one. -/
def Event.logLine? (e : Event) : Option LogLine :=
  match e.logMessage with
  | none => none
  | some message => if message.isEmpty then none else some ⟨message, Severity.parse e.logType⟩

/-- A line of a log with the time of its receipt. -/
structure LogEntry where
  receivedAt : Timestamp
  line : LogLine
  deriving DecidableEq

/-- Reads a timestamp from data. -/
def readTimestamp (j : Json) : Decoded Timestamp :=
  match j with
  | .string s =>
    match Timestamp.parse? s.toList with
    | some t => .ok t
    | none => .error .invalidTimestamp
  | j => .error (j.mismatch "an RFC 3339 formatted date and time string")

namespace LogEntry

/-- The time of day shown next to the line. -/
def timeLabel (e : LogEntry) : String :=
  e.receivedAt.clockText

/-- The entry as data. -/
def toJson (e : LogEntry) : Json :=
  .object [("received_at", .string e.receivedAt.text), ("message", .string e.line.message),
    ("type", e.line.severity.toJson)]

/-- How an entry is read. -/
def reader : RecordReader LogEntry :=
  (fun t message severity => ⟨t, ⟨message, severity⟩⟩)
    <$> .required "received_at" readTimestamp
    <*> .required "message" Json.toStr
    <*> .required "type" Severity.ofJson

/-- Reads an entry from data. -/
def ofJson : Json → Decoded LogEntry :=
  reader.read "ProgressLogEntry"

end LogEntry

end AssetSearch.Progress
