/-
# Progress trackers

A tracker keeps the display of one task up to date.  Every change raises the revision by one and is
sent to the receivers.  When a task ends, the tracker may put its display away by itself after a
delay; the timer for that is given up when another task is opened, when the display is put away, or
when the task ends once more.

Key definitions: `Tracker`, its operations `begin`, `log`, `apply`, `setProgress`, `finish`, `fail`
and `close`, `Tracker.elapse` (time passes and timers fire), and the inductive `Tracker.Action` with
`Tracker.step`.
-/
import AssetSearch.Progress.Snapshot
import AssetSearch.Watch

namespace AssetSearch.Progress

/-- What happens to the display after a task has ended. -/
inductive DismissPolicy where
  /-- The operator puts it away. -/
  | manual
  /-- It is put away after a delay in milliseconds. -/
  | after (delay : Nat)
  deriving DecidableEq, Repr

/-- A running timer, known by its token. -/
structure Timer where
  token : Nat
  deadline : Nat
  deriving DecidableEq, Repr

/-- A tracker with its timers.  `canWait` tells whether timers can run at all. -/
structure Tracker where
  snapshot : Snapshot
  policy : DismissPolicy
  canWait : Bool
  /-- The time in milliseconds. -/
  now : Nat
  /-- The timers that are running and have not been given up. -/
  timers : List Timer
  /-- The token of the timer that was started last, if it is still to be reckoned with. -/
  pending : Option Nat
  nextToken : Nat
  updates : Watch Snapshot

namespace Tracker

/-- A tracker whose display is not open and is put away by the operator. -/
def new (title : String) (canWait : Bool) : Tracker where
  snapshot := .new title
  policy := .manual
  canWait := canWait
  now := 0
  timers := []
  pending := none
  nextToken := 0
  updates := .new (.new title)

instance : Inhabited Tracker := ⟨new "" true⟩

/-! ## Settings -/

/-- Sets what happens after a task has ended. -/
def withPolicy (t : Tracker) (policy : DismissPolicy) : Tracker :=
  { t with policy := policy }

/-- Sets whether a running task may be cancelled. -/
def withCancel (t : Tracker) (cancellable : Bool) : Tracker :=
  { t with snapshot := { t.snapshot with cancellable := cancellable } }

/-! ## Changes and timers -/

/-- Makes a change of the display: the next revision, sent to all receivers. -/
def change (t : Tracker) (f : Snapshot → Snapshot) : Tracker :=
  let s := (f t.snapshot).bump
  { t with snapshot := s, updates := t.updates.send s }

/-- Gives up the pending timer. -/
def giveUp (t : Tracker) : Tracker :=
  match t.pending with
  | none => t
  | some token =>
    { t with pending := none, timers := t.timers.filter fun timer => timer.token ≠ token }

/-- Starts the timer that puts the display away, if the policy asks for one. -/
def schedule (t : Tracker) : Tracker :=
  match t.policy with
  | .manual => t
  | .after delay =>
    let t := t.giveUp
    if t.canWait then
      { t with
        timers := t.timers ++ [⟨t.nextToken, t.now + delay⟩]
        pending := some t.nextToken
        nextToken := t.nextToken + 1 }
    else t

/-- Starts the timer if a condition holds. -/
def scheduleIf (t : Tracker) (c : Bool) : Tracker :=
  if c then t.schedule else t

/-- Puts the display away. -/
def dismiss (t : Tracker) : Tracker :=
  t.giveUp.change Snapshot.close

/-! ## Operations -/

/-- Opens the display for a task. -/
def begin (t : Tracker) (taskId statusText : String) : Tracker :=
  t.giveUp.change fun s => s.begin taskId statusText

/-- Appends a line to the log. -/
def log (t : Tracker) (message : String) (severity : Severity) : Tracker :=
  t.change fun s => s.append ⟨message, severity⟩

/-- Takes over an event. -/
def apply (t : Tracker) (e : Event) : Tracker :=
  (t.scheduleIf e.status.isTerminal).change fun s => s.apply e

/-- Moves a running task on. -/
def setProgress (t : Tracker) (percent : Double) (statusText : String) : Tracker :=
  t.change fun s => s.setProgress percent statusText

/-- Ends a task. -/
def finish (t : Tracker) (status : Status) (percent : Double) (statusText : String)
    (line : Option LogLine) : Tracker :=
  (t.scheduleIf status.isTerminal).change fun s => s.finish status percent statusText line

/-- Takes over a failure; also whether it became the status. -/
def fail (t : Tracker) (message : String) : Bool × Tracker :=
  let changed := !t.snapshot.status.isTerminal
  (changed, (t.scheduleIf changed).change fun s => s.fail message)

/-- Puts the display away unless the task is running; also whether it did. -/
def close (t : Tracker) : Bool × Tracker :=
  if t.snapshot.status.isClosable then (true, t.dismiss) else (false, t)

/-! ## Time -/

/-- A timer whose time has come puts the display away, unless it was given up. -/
def fire (t : Tracker) (timer : Timer) : Tracker :=
  if timer ∈ t.timers then
    { t with timers := t.timers.filter fun other => other.token ≠ timer.token }.dismiss
  else t

/-- Lets time pass: all timers due by then fire. -/
def elapse (t : Tracker) (ms : Nat) : Tracker :=
  let later := { t with now := t.now + ms }
  (later.timers.filter fun timer => timer.deadline ≤ later.now).foldl fire later

/-! ## Events -/

/-- Takes over an event of the task on display and leaves all others. -/
def offer (t : Tracker) (e : Event) : Tracker :=
  if t.snapshot.taskId = some e.taskId then t.apply e else t

/-! ## Runs -/

/-- What may happen to a tracker. -/
inductive Action where
  | withPolicy (policy : DismissPolicy)
  | withCancel (cancellable : Bool)
  | begin (taskId statusText : String)
  | log (message : String) (severity : Severity)
  | apply (e : Event)
  | setProgress (percent : Double) (statusText : String)
  | finish (status : Status) (percent : Double) (statusText : String) (line : Option LogLine)
  | fail (message : String)
  | close
  | elapse (ms : Nat)

/-- One step. -/
def step (t : Tracker) : Action → Tracker
  | .withPolicy policy => t.withPolicy policy
  | .withCancel cancellable => t.withCancel cancellable
  | .begin taskId statusText => t.begin taskId statusText
  | .log message severity => t.log message severity
  | .apply e => t.apply e
  | .setProgress percent statusText => t.setProgress percent statusText
  | .finish status percent statusText line => t.finish status percent statusText line
  | .fail message => (t.fail message).2
  | .close => t.close.2
  | .elapse ms => t.elapse ms

end Tracker

end AssetSearch.Progress
