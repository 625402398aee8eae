/-
# What a session keeps

From one opening of a display to the next the task stays and the log only grows, whatever happens.
Every operation is one revision; putting the display away, by the operator or by the timer, is one
as well and changes nothing else that is shown.

Key definitions: `Tracker.putAway`, `Tracker.changes`, `Action.lines`.  Key statements:
`Awaits.elapse_eq`, `revision_step`, `logs_run`, `frame_of_session`.
-/
import AssetSearch.Proofs.Progress.Deadlines

namespace AssetSearch.Progress.Tracker

variable {t : Tracker} {w : Option Timer}

/-! ## Putting the display away -/

/-- The tracker with its display put away.  What is shown changes in the open flag and in the
revision; besides, the timer is gone, and the observers hold the new display. -/
def putAway (t : Tracker) : Tracker :=
  let shown := { t.snapshot with isOpen := false, revision := t.snapshot.revision + 1 }
  { t with snapshot := shown, timers := [], pending := none, updates := t.updates.send shown }

/-- A timer that is given up leaves no other one behind. -/
theorem giveUp_eq (h : ∀ timer ∈ t.timers, t.pending = some timer.token) :
    t.giveUp = { t with timers := [], pending := none } := by
  unfold giveUp
  split
  · next hnone =>
    have hempty : t.timers = [] := by
      refine List.eq_nil_iff_forall_not_mem.2 ?_
      intro timer hmem
      have hpending := h timer hmem
      rw [hnone] at hpending
      cases hpending
    rw [← hnone, ← hempty]
  · next token hsome =>
    have hempty : t.timers.filter (fun timer => timer.token ≠ token) = [] := by
      refine List.filter_eq_nil_iff.2 ?_
      intro timer hmem
      have hpending := h timer hmem
      rw [hsome] at hpending
      simpa using (Option.some.inj hpending).symm
    rw [hempty]

theorem dismiss_eq (h : ∀ timer ∈ t.timers, t.pending = some timer.token) :
    t.dismiss = t.putAway := by
  rw [dismiss, giveUp_eq h]
  rfl

namespace Awaits

theorem pending_eq (h : t.Awaits w) : ∀ timer ∈ t.timers, t.pending = some timer.token := by
  intro timer hmem
  rw [h.timers] at hmem
  rw [h.pending, Option.mem_toList.1 hmem]
  rfl

/-- **What a request to put the display away does**: nothing at all while the task is running. -/
theorem close_eq (h : t.Awaits w) :
    t.close = if t.snapshot.status = .running then (false, t) else (true, t.putAway) := by
  rw [close, dismiss_eq h.pending_eq]
  cases t.snapshot.status <;> rfl

end Awaits

/-- How many timers come due within some milliseconds. -/
def dueIn (t : Tracker) (ms : Nat) : Nat :=
  t.timers.countP fun timer => timer.deadline ≤ t.now + ms

/-- **What time does**: it moves the clock, and when the timer comes due, the display is put
away. -/
theorem Awaits.elapse_eq (h : t.Awaits w) (ms : Nat) :
    (t.dueIn ms = 0 ∧ t.elapse ms = { t with now := t.now + ms }) ∨
      (t.dueIn ms = 1 ∧ t.elapse ms = ({ t with now := t.now + ms } : Tracker).putAway) := by
  rcases h.elapse_cases ms with ⟨timer, rfl, hdue, heq⟩ | ⟨hlater, heq⟩
  · right
    refine ⟨?_, ?_⟩
    · rw [dueIn, h.timers]
      simp [hdue]
    · rw [heq, dismiss_eq fun other hmem => absurd hmem List.not_mem_nil]
      rfl
  · left
    refine ⟨List.countP_eq_zero.2 ?_, heq⟩
    rw [h.timers]
    intro timer hmem
    simpa using hlater timer (Option.mem_toList.1 hmem)

/-! ## Revisions -/

/-- How many revisions a step makes. -/
def changes (t : Tracker) : Action → Nat
  | .withPolicy _ => 0
  | .withCancel _ => 0
  | .close => if t.snapshot.status = .running then 0 else 1
  | .elapse ms => t.dueIn ms
  | _ => 1

theorem revision_step (h : t.Awaits w) (a : Action) :
    (t.step a).snapshot.revision = t.snapshot.revision + t.changes a := by
  cases a with
  | withPolicy policy => rfl
  | withCancel cancellable => rfl
  | begin taskId statusText => exact congrArg Snapshot.revision (snapshot_begin t taskId statusText)
  | log message severity => rfl
  | apply e => exact congrArg Snapshot.revision (snapshot_apply t e)
  | setProgress percent statusText => rfl
  | finish status percent statusText line =>
    exact congrArg Snapshot.revision (snapshot_finish t status percent statusText line)
  | fail message =>
    refine (congrArg Snapshot.revision (snapshot_fail t message)).trans ?_
    rw [Snapshot.fail]
    split <;> rfl
  | close =>
    show t.close.2.snapshot.revision
      = t.snapshot.revision + if t.snapshot.status = .running then 0 else 1
    rw [h.close_eq]
    split <;> rfl
  | elapse ms =>
    show (t.elapse ms).snapshot.revision = t.snapshot.revision + t.dueIn ms
    rcases h.elapse_eq ms with ⟨hdue, heq⟩ | ⟨hdue, heq⟩
    · rw [hdue, heq]
      rfl
    · rw [hdue, heq]
      rfl

/-! ## The log -/

/-- The lines that a step adds to the log. -/
def Action.lines : Action → List LogLine
  | .log message severity => [⟨message, severity⟩]
  | .apply e => e.logLine?.toList
  | .finish _ _ _ line => line.toList
  | .fail message => [⟨Snapshot.failureText message, .error⟩]
  | _ => []

/-- A step writes its lines behind those that are there, unless it opens a display. -/
theorem logs_step (h : t.Awaits w) {a : Action}
    (ha : ∀ taskId statusText, a ≠ .begin taskId statusText) :
    (t.step a).snapshot.logs = t.snapshot.logs ++ a.lines := by
  cases a with
  | withPolicy policy => exact (List.append_nil _).symm
  | withCancel cancellable => exact (List.append_nil _).symm
  | begin taskId statusText => exact absurd rfl (ha taskId statusText)
  | log message severity => rfl
  | apply e => exact congrArg Snapshot.logs (snapshot_apply t e)
  | setProgress percent statusText => exact (List.append_nil _).symm
  | finish status percent statusText line =>
    exact congrArg Snapshot.logs (snapshot_finish t status percent statusText line)
  | fail message =>
    refine (congrArg Snapshot.logs (snapshot_fail t message)).trans ?_
    rw [Snapshot.fail]
    split <;> rfl
  | close =>
    show t.close.2.snapshot.logs = t.snapshot.logs ++ []
    rw [h.close_eq, List.append_nil]
    split <;> rfl
  | elapse ms =>
    show (t.elapse ms).snapshot.logs = t.snapshot.logs ++ []
    rw [List.append_nil]
    rcases h.elapse_eq ms with ⟨-, heq⟩ | ⟨-, heq⟩
    · rw [heq]
    · rw [heq]
      rfl

/-- **A session keeps its task and its log.**  Until a display is opened again, the task stays, and
the log grows by the lines of the steps, in their order. -/
theorem session_run (h : t.Awaits w) {as : List Action}
    (has : ∀ taskId statusText, .begin taskId statusText ∉ as) :
    (t.run as).snapshot.taskId = t.snapshot.taskId ∧
      (t.run as).snapshot.logs = t.snapshot.logs ++ as.flatMap Action.lines := by
  induction as generalizing t w with
  | nil => exact ⟨rfl, (List.append_nil _).symm⟩
  | cons a as ih =>
    have ha : ∀ taskId statusText, a ≠ .begin taskId statusText := by
      rintro taskId statusText rfl
      exact has taskId statusText List.mem_cons_self
    have hrest : ∀ taskId statusText, .begin taskId statusText ∉ as := by
      intro taskId statusText hmem
      exact has taskId statusText (List.mem_cons_of_mem a hmem)
    obtain ⟨htask, hlogs⟩ := ih (h.step a) hrest
    refine ⟨htask.trans (taskId_step t ha), ?_⟩
    rw [run_cons, hlogs, logs_step h ha, List.flatMap_cons, List.append_assoc]

/-! ## The result -/

/-- **The frame of a session.**  In every run of a tracker: until a display is opened again, the
task stays the same, and the log at any moment is the beginning of the log at every later one,
behind which come the lines of the steps between.  Every operation is exactly one revision, and so
is each timer that comes due, of which there is at most one.  A request to put the display away is
refused just while the task is running, and then nothing changes at all; one that is accepted, and a
timer that comes due, put the display away and change nothing else. -/
theorem frame_of_session (title : String) (canWait : Bool) (as : List Action) :
    let t := (new title canWait).run as
    (∀ between, (∀ taskId statusText, .begin taskId statusText ∉ between) →
      (t.run between).snapshot.taskId = t.snapshot.taskId ∧
      t.snapshot.logs <+: (t.run between).snapshot.logs ∧
      (t.run between).snapshot.logs = t.snapshot.logs ++ between.flatMap Action.lines) ∧
    (∀ a, (t.step a).snapshot.revision = t.snapshot.revision + t.changes a) ∧
    (t.close.1 = false ↔ t.snapshot.status = .running) ∧
    (t.close.1 = false → t.close.2 = t) ∧
    (t.close.1 = true → t.close.2 = t.putAway) ∧
    ∀ ms, (t.dueIn ms = 0 ∧ t.elapse ms = { t with now := t.now + ms }) ∨
      (t.dueIn ms = 1 ∧ t.elapse ms = ({ t with now := t.now + ms } : Tracker).putAway) := by
  intro t
  obtain ⟨w, hw⟩ : ∃ w, t.Awaits w := (awaits_new title canWait).run as
  have hclose := hw.close_eq
  refine ⟨?_, revision_step hw, ?_, ?_, ?_, hw.elapse_eq⟩
  · intro between hbetween
    obtain ⟨htask, hlogs⟩ := session_run hw hbetween
    refine ⟨htask, ?_, hlogs⟩
    rw [hlogs]
    exact List.prefix_append _ _
  · rw [hclose]
    split <;> simp_all
  · rw [hclose]
    split <;> simp
  · rw [hclose]
    split <;> simp

/-- The steps that start a session. -/
def started : List Action :=
  [.withPolicy (.after 1000), .begin "x" "go", .log "started" .info]

/-- The steps of a session whose task ends, whose display the timer puts away, and which goes on. -/
def outlived : List Action :=
  [.apply { Event.new "x" (.zero false) .success "done" with logMessage := some "saved" },
    .elapse 1000, .close, .fail "down"]

/-- The task and the lines of the session outlive its display. -/
theorem frame_of_outlived :
    (∀ taskId statusText, .begin taskId statusText ∉ outlived) ∧
    (((new "T" true).run started).run outlived).snapshot.taskId = some "x" ∧
    (((new "T" true).run started).run outlived).snapshot.logs
      = [⟨"started", .info⟩, ⟨"saved", .info⟩, ⟨"Failed: down", .error⟩] ∧
    ((new "T" true).run started).close.1 = false ∧
    ((new "T" true).run started).close.2 = (new "T" true).run started ∧
    (((new "T" true).run started).run outlived).close.1 = true ∧
    (((new "T" true).run started).run outlived).close.2
      = (((new "T" true).run started).run outlived).putAway := by
  have hbetween : ∀ taskId statusText, .begin taskId statusText ∉ outlived := by
    intro taskId statusText
    simp [outlived]
  obtain ⟨hsession, -, -, hrefused, -, -⟩ := frame_of_session "T" true started
  obtain ⟨-, -, -, -, haccepted, -⟩ := frame_of_session "T" true (started ++ outlived)
  rw [run_append] at haccepted
  obtain ⟨htask, -, hlogs⟩ := hsession outlived hbetween
  have hclosable : (((new "T" true).run started).run outlived).close.1 = true := by decide
  exact ⟨hbetween, htask, hlogs.trans (by decide), rfl, hrefused rfl, hclosable,
    haccepted hclosable⟩

end AssetSearch.Progress.Tracker
