/-
# What the operations of a tracker show

The display of a tracker changes by the operations of snapshots alone: timers never touch it before
they fire.  A sequence of events is shown by its last event, by the last one with counters, and by
all log lines in order.

Key statements: `snapshot_begin`, `snapshot_apply`, `snapshot_fail`, `elapse_of_quiet`,
`Snapshot.takeAll_eq`.
-/
import Mathlib.Data.List.Induction
import Mathlib.Tactic.Common
import AssetSearch.Progress.Tracker

namespace AssetSearch.Progress

/-! ## Displays and timers -/

namespace Tracker

variable (t : Tracker)

@[simp] theorem snapshot_giveUp : t.giveUp.snapshot = t.snapshot := by
  unfold giveUp
  split <;> rfl

@[simp] theorem snapshot_schedule : t.schedule.snapshot = t.snapshot := by
  unfold schedule
  split
  · rfl
  · dsimp only
    split <;> simp

@[simp] theorem snapshot_scheduleIf (c : Bool) : (t.scheduleIf c).snapshot = t.snapshot := by
  unfold scheduleIf
  split
  · exact snapshot_schedule t
  · rfl

theorem snapshot_change (f : Snapshot → Snapshot) :
    (t.change f).snapshot = (f t.snapshot).bump := rfl

theorem snapshot_dismiss : t.dismiss.snapshot = t.snapshot.close.bump := by
  rw [dismiss, snapshot_change, snapshot_giveUp]

theorem snapshot_begin (taskId statusText : String) :
    (t.begin taskId statusText).snapshot = (t.snapshot.begin taskId statusText).bump := by
  rw [begin, snapshot_change, snapshot_giveUp]

theorem snapshot_log (message : String) (severity : Severity) :
    (t.log message severity).snapshot = (t.snapshot.append ⟨message, severity⟩).bump := rfl

theorem snapshot_apply (e : Event) : (t.apply e).snapshot = (t.snapshot.apply e).bump := by
  rw [apply, snapshot_change, snapshot_scheduleIf]

theorem snapshot_setProgress (percent : Double) (statusText : String) :
    (t.setProgress percent statusText).snapshot
      = (t.snapshot.setProgress percent statusText).bump := rfl

theorem snapshot_finish (status : Status) (percent : Double) (statusText : String)
    (line : Option LogLine) :
    (t.finish status percent statusText line).snapshot
      = (t.snapshot.finish status percent statusText line).bump := by
  rw [finish, snapshot_change, snapshot_scheduleIf]

theorem snapshot_fail (message : String) :
    (t.fail message).2.snapshot = (t.snapshot.fail message).bump := by
  rw [fail, snapshot_change, snapshot_scheduleIf]

/-- Only the events of its own task concern a tracker. -/
theorem offer_eq (e : Event) :
    t.offer e = if t.snapshot.taskId = some e.taskId then t.apply e else t := rfl

variable {t}

/-- Time that no timer waits for shows nothing. -/
theorem elapse_of_quiet {ms : Nat} (h : ∀ timer ∈ t.timers, t.now + ms < timer.deadline) :
    t.elapse ms = { t with now := t.now + ms } := by
  have hdue : t.timers.filter (fun timer => timer.deadline ≤ t.now + ms) = [] := by
    rw [List.filter_eq_nil_iff]
    intro timer htimer
    have hlater := h timer htimer
    simp
    omega
  rw [elapse]
  dsimp only
  rw [hdue]
  rfl

/-! ## The task on display -/

theorem taskId_fail (s : Snapshot) (message : String) : (s.fail message).taskId = s.taskId := by
  unfold Snapshot.fail
  dsimp only
  split <;> rfl

theorem taskId_fire (t : Tracker) (timer : Timer) :
    (t.fire timer).snapshot.taskId = t.snapshot.taskId := by
  unfold fire
  split
  · rw [snapshot_dismiss]
    rfl
  · rfl

theorem taskId_elapse (t : Tracker) (ms : Nat) :
    (t.elapse ms).snapshot.taskId = t.snapshot.taskId := by
  rw [elapse]
  dsimp only
  generalize List.filter _ _ = due
  show (due.foldl fire { t with now := t.now + ms }).snapshot.taskId
    = ({ t with now := t.now + ms } : Tracker).snapshot.taskId
  generalize ({ t with now := t.now + ms } : Tracker) = later
  -- the timers fire one after the other
  induction due generalizing later with
  | nil => rfl
  | cons timer due ih => rw [List.foldl_cons, ih, taskId_fire]

theorem taskId_offer (t : Tracker) (e : Event) :
    (t.offer e).snapshot.taskId = t.snapshot.taskId := by
  rw [offer_eq]
  split
  · rw [snapshot_apply]
    rfl
  · rfl

/-- **Only the start of another task changes the task on display.** -/
theorem taskId_step (t : Tracker) {a : Action}
    (h : ∀ taskId statusText, a ≠ .begin taskId statusText) :
    (t.step a).snapshot.taskId = t.snapshot.taskId := by
  cases a with
  | withPolicy policy => rfl
  | withCancel cancellable => rfl
  | begin taskId statusText => exact absurd rfl (h taskId statusText)
  | log message severity => rfl
  | apply e =>
    rw [step, snapshot_apply]
    rfl
  | setProgress percent statusText => rfl
  | finish status percent statusText line =>
    rw [step, snapshot_finish]
    rfl
  | fail message =>
    rw [step, snapshot_fail]
    exact taskId_fail t.snapshot message
  | close =>
    rw [step, close]
    split
    · show t.dismiss.snapshot.taskId = _
      rw [snapshot_dismiss]
      rfl
    · rfl
  | elapse ms => exact taskId_elapse t ms

end Tracker

/-! ## Sequences of events -/

/-- An event has a summary just if it carries a counter. -/
theorem Event.isEmpty_summary (e : Event) : e.summary.isEmpty = !e.hasCounters := by
  obtain ⟨taskId, percent, status, statusText, logMessage, logType, current, total, results,
    fetched⟩ := e
  cases current <;> cases total <;> cases results <;> cases fetched <;> rfl

namespace Snapshot

/-- Shows some events, one after the other. -/
def takeAll (s : Snapshot) (es : List Event) : Snapshot :=
  es.foldl (fun s e => (s.apply e).bump) s

/-- **What some events show.** -/
theorem takeAll_eq (s : Snapshot) (es : List Event) :
    s.takeAll es =
      { s with
        percent := (es.getLast?.map Event.percent).getD s.percent
        status := (es.getLast?.map Event.status).getD s.status
        statusText := (es.getLast?.map Event.statusText).getD s.statusText
        logs := s.logs ++ es.filterMap Event.logLine?
        summary := ((es.filter Event.hasCounters).getLast?.map Event.summary).getD s.summary
        revision := s.revision + es.length } := by
  induction es using List.reverseRecOn with
  | nil => simp [takeAll]
  | append_singleton es e ih =>
    have hstep : s.takeAll (es ++ [e]) = ((s.takeAll es).apply e).bump := by
      rw [takeAll, List.foldl_append]
      rfl
    have hsummary : ((es ++ [e]).filter Event.hasCounters).getLast?.map Event.summary
        = if e.hasCounters then some e.summary
          else (es.filter Event.hasCounters).getLast?.map Event.summary := by
      rw [List.filter_append]
      cases he : e.hasCounters <;> simp [he]
    have hlogs : (es ++ [e]).filterMap Event.logLine?
        = es.filterMap Event.logLine? ++ e.logLine?.toList := by
      rw [List.filterMap_append]
      cases he : e.logLine? <;> simp [he]
    rw [hstep, ih, hsummary, hlogs]
    simp only [Snapshot.apply, bump, Event.isEmpty_summary, List.getLast?_append,
      List.getLast?_singleton, Option.some_or, Option.map_some, Option.getD_some,
      List.length_append, List.length_singleton, List.append_assoc, Nat.add_assoc]
    cases e.hasCounters <;> rfl

end Snapshot

end AssetSearch.Progress
