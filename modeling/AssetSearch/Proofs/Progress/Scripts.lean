/-
# Calls that show their task themselves

A call whose task sends no events opens the display of a tracker, makes some notes on it, asks the
backend, and shows the outcome.  While the tracker listens to nothing, its display changes by these
steps alone, whatever is published and however much time passes between them.

Key definitions: `Note`, `Board.Moment`, `Board.during`, `Board.Calm`, `Script`, `Script.Kept`.  Key
statements: `Board.Calm.during`, `Script.kept`.
-/
import AssetSearch.Failure
import AssetSearch.Proofs.Progress.Boards
import AssetSearch.Proofs.Progress.Timers

namespace AssetSearch.Progress

/-! ## Notes -/

/-- What a call notes on the display of its task while it runs. -/
inductive Note where
  | progress (percent : Double) (statusText : String)
  | line (message : String) (severity : Severity)

namespace Note

/-- The step of the tracker. -/
def action : Note → Tracker.Action
  | progress percent statusText => .setProgress percent statusText
  | line message severity => .log message severity

/-- The display with the note. -/
def on (s : Snapshot) : Note → Snapshot
  | progress percent statusText => (s.setProgress percent statusText).bump
  | line message severity => (s.append ⟨message, severity⟩).bump

theorem snapshot_step (t : Tracker) (n : Note) : (t.step n.action).snapshot = on t.snapshot n := by
  cases n <;> rfl

theorem awaits_step {t : Tracker} {w : Option Timer} (h : t.Awaits w) (n : Note) :
    (t.step n.action).Awaits w := by
  cases n with
  | progress percent statusText => exact h.step (.setProgress percent statusText)
  | line message severity => exact h.step (.log message severity)

theorem status_foldl_on (s : Snapshot) (ns : List Note) : (ns.foldl on s).status = s.status := by
  induction ns generalizing s with
  | nil => rfl
  | cons n ns ih =>
    have hn : (on s n).status = s.status := by cases n <;> rfl
    exact (ih (on s n)).trans hn

end Note

/-! ## A tracker that listens to nothing -/

namespace Board

/-- What happens during a call. -/
inductive Moment where
  /-- The call makes a note. -/
  | noted (n : Note)
  /-- Something else happens. -/
  | passed (h : Happening)

/-- The note that is made. -/
def Moment.note? : Moment → Option Note
  | noted n => some n
  | passed _ => none

/-- What comes of it, if the call has a tracker. -/
def moment (b : Board) (i : Nat) : Moment → Board
  | .noted n => b.update i fun t => t.step n.action
  | .passed h => b.pass h

def during (b : Board) (i : Nat) (ms : List Moment) : Board :=
  ms.foldl (fun b m => b.moment i m) b

/-- A tracker is not attached, and no timer of it runs. -/
structure Calm (b : Board) (i : Nat) : Prop where
  exists_tracker : i < b.trackers.length
  detached : ∀ l ∈ b.bus.listeners, l.handler ≠ i
  awaits : (b.tracker i).Awaits none

namespace Calm

variable {b : Board} {i : Nat}

/-- Neither an event nor a pause changes the display. -/
theorem pass (h : b.Calm i) (x : Happening) :
    (b.pass x).Calm i ∧ ((b.pass x).tracker i).snapshot = (b.tracker i).snapshot := by
  cases x with
  | published e =>
    have hpass : b.pass (.published e) = b.callAll e (b.bus.recipients e) := rfl
    have hsame : (b.pass (.published e)).tracker i = b.tracker i :=
      tracker_callAll b e fun l hl => h.detached l (List.mem_filter.1 hl).1
    refine ⟨⟨?_, ?_, ?_⟩, congrArg Tracker.snapshot hsame⟩
    · rw [hpass, length_callAll]
      exact h.exists_tracker
    · rw [hpass, bus_callAll]
      exact h.detached
    · rw [hsame]
      exact h.awaits
  | paused ms =>
    have hlater : (b.pass (.paused ms)).tracker i = (b.tracker i).elapse ms :=
      tracker_elapse h.exists_tracker ms
    have hnone : ∀ timer : Timer, none = some timer → (b.tracker i).now + ms < timer.deadline := by
      intro timer h
      cases h
    refine ⟨⟨?_, h.detached, ?_⟩, ?_⟩
    · rw [Board.pass, Board.elapse, List.length_map]
      exact h.exists_tracker
    · rw [hlater]
      exact h.awaits.elapse ms
    · rw [hlater, h.awaits.elapse_of_lt hnone]

theorem update (h : b.Calm i) {f : Tracker → Tracker} (hf : (f (b.tracker i)).Awaits none) :
    (b.update i f).Calm i where
  exists_tracker := by
    rw [length_update]
    exact h.exists_tracker
  detached := h.detached
  awaits := by
    rw [tracker_update_self h.exists_tracker]
    exact hf

/-- **The display shows the notes of the call**, and nothing else that happens meanwhile. -/
theorem during (h : b.Calm i) (ms : List Moment) :
    (b.during i ms).Calm i ∧ ((b.during i ms).tracker i).snapshot
      = (ms.filterMap Moment.note?).foldl Note.on (b.tracker i).snapshot := by
  induction ms generalizing b with
  | nil => exact ⟨h, rfl⟩
  | cons m ms ih =>
    cases m with
    | noted n =>
      have hshown : ((b.update i fun t => t.step n.action).tracker i).snapshot
          = Note.on (b.tracker i).snapshot n := by
        rw [tracker_update_self h.exists_tracker, Note.snapshot_step]
      have hrest := ih (h.update (f := fun t => t.step n.action) (Note.awaits_step h.awaits n))
      rw [hshown] at hrest
      exact hrest
    | passed x =>
      have hrest := ih (h.pass x).1
      rw [(h.pass x).2] at hrest
      exact hrest

end Calm

/-- Other things that happen, without a note. -/
theorem during_passed (b : Board) (i : Nat) (hs : List Happening) :
    b.during i (hs.map .passed) = b.passAll hs := by
  rw [during, List.foldl_map]
  rfl

theorem during_append (b : Board) (i : Nat) (ms ms' : List Moment) :
    b.during i (ms ++ ms') = (b.during i ms).during i ms' := by
  rw [during, during, during, List.foldl_append]

theorem update_update (b : Board) (i : Nat) (f g : Tracker → Tracker) :
    (b.update i f).update i g = b.update i (g ∘ f) := by
  rw [update, update, update, List.modify_modify_eq]

/-- Notes made one after the other. -/
theorem during_noted (b : Board) (i : Nat) (f : Tracker → Tracker) (ns : List Note) :
    (b.update i f).during i (ns.map .noted)
      = b.update i fun t => ns.foldl (fun t n => t.step n.action) (f t) := by
  induction ns generalizing f with
  | nil => rfl
  | cons n ns ih =>
    have hfirst : ((b.update i f).moment i (.noted n)) = b.update i fun t => (f t).step n.action :=
      update_update b i f _
    rw [List.map_cons, during, List.foldl_cons, hfirst]
    exact ih _

end Board

/-! ## Scripts -/

/-- How a call shows its task: it opens the display, makes some notes before it asks the backend,
and shows the outcome. -/
structure Script (α : Type) where
  taskId : String
  statusText : String
  notes : List Note
  ending : Outcome α → Tracker → Tracker

namespace Script

variable {α : Type} (script : Script α) (b : Board) (i : Nat)

/-- What is shown before the backend is asked. -/
def announce (t : Tracker) : Tracker :=
  script.notes.foldl (fun t n => t.step n.action) (t.begin script.taskId script.statusText)

/-- A call without interruptions: the notes, and the events that are published when the backend has
been asked. -/
def moments (es : List Event) : List Board.Moment :=
  script.notes.map .noted ++ (es.map .published).map .passed

/-- The board after the display has been opened and some moments have passed. -/
def after (ms : List Board.Moment) : Board :=
  (b.update i fun t => t.begin script.taskId script.statusText).during i ms

/-- The call as it is shown at every moment: the task is running from the opening of the display on;
once all notes are made the display is `flight`, until the outcome makes it `last`. -/
structure Kept (flight : Snapshot) (last : Outcome α → Snapshot) : Prop where
  running : ∀ ms, ms.filterMap Board.Moment.note? <+: script.notes →
    ((script.after b i ms).tracker i).snapshot.status = .running
  inFlight : ∀ ms, ms.filterMap Board.Moment.note? = script.notes →
    ((script.after b i ms).tracker i).snapshot = flight
  ended : ∀ ms, ms.filterMap Board.Moment.note? = script.notes → ∀ outcome,
    (((script.after b i ms).update i (script.ending outcome)).tracker i).snapshot = last outcome

theorem note?_moments (es : List Event) :
    (script.moments es).filterMap Board.Moment.note? = script.notes := by
  have hnotes : (script.notes.map Board.Moment.noted).filterMap Board.Moment.note?
      = script.notes := by
    rw [List.filterMap_map]
    exact List.filterMap_some
  have hrest : ((es.map Board.Happening.published).map Board.Moment.passed).filterMap
      Board.Moment.note? = [] := by
    rw [List.filterMap_map]
    exact List.filterMap_eq_nil_iff.2 fun _ _ => rfl
  rw [moments, List.filterMap_append, hnotes, hrest, List.append_nil]

theorem after_moments (es : List Event) :
    script.after b i (script.moments es) = (b.update i script.announce).publishAll es := by
  rw [after, moments, Board.during_append, Board.during_noted, Board.during_passed,
    Board.passAll_published]
  rfl

variable {script b i}

/-- A script is kept on a tracker that listens to nothing: a timer that still runs is given up when
the display is opened. -/
theorem kept {w : Option Timer} (hi : i < b.trackers.length)
    (hdetached : ∀ l ∈ b.bus.listeners, l.handler ≠ i) (hawaits : (b.tracker i).Awaits w)
    {flight : Snapshot} {last : Outcome α → Snapshot}
    (hflight : script.notes.foldl Note.on
      ((b.tracker i).snapshot.begin script.taskId script.statusText).bump = flight)
    (hlast : ∀ outcome t, t.snapshot = flight → (script.ending outcome t).snapshot = last outcome) :
    script.Kept b i flight last := by
  have hopened : (b.update i fun t => t.begin script.taskId script.statusText).Calm i := by
    refine ⟨?_, hdetached, ?_⟩
    · rw [Board.length_update]
      exact hi
    · rw [Board.tracker_update_self hi]
      exact hawaits.giveUp.change _
  have hshown : ∀ ms, ((script.after b i ms).tracker i).snapshot
      = (ms.filterMap Board.Moment.note?).foldl Note.on
          ((b.tracker i).snapshot.begin script.taskId script.statusText).bump := by
    intro ms
    rw [after, (hopened.during ms).2, Board.tracker_update_self hi, Tracker.snapshot_begin]
  have hflying : ∀ ms, ms.filterMap Board.Moment.note? = script.notes →
      ((script.after b i ms).tracker i).snapshot = flight := by
    intro ms hms
    rw [hshown, hms, hflight]
  refine ⟨?_, hflying, ?_⟩
  · intro ms _
    rw [hshown, Note.status_foldl_on]
    rfl
  · intro ms hms outcome
    have hstill : i < (script.after b i ms).trackers.length :=
      (hopened.during ms).1.exists_tracker
    rw [Board.tracker_update_self hstill]
    exact hlast outcome _ (hflying ms hms)

end Script

end AssetSearch.Progress
