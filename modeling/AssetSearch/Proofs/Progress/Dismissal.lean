/-
# Running tasks and the timer

The operator cannot put away the display of a running task, but a timer can: it does not look at the
status when it fires.  That happens just if an update has set the status back to running after the
end of the task had started the timer.

Key definitions: `Tracker.Dismisses`, `Tracker.Revives`.  Key statement:
`never_dismissed_while_running_iff`.
-/
import Mathlib.Data.List.Induction
import AssetSearch.Proofs.Progress.Timers

namespace AssetSearch.Progress.Tracker

variable {t : Tracker} {w : Option Timer}

/-- A step puts away the display. -/
def Dismisses (t : Tracker) (a : Action) : Prop :=
  t.snapshot.isOpen = true ∧ (t.step a).snapshot.isOpen = false

/-- **Who puts away a display**: the operator, when the task is not running, or the timer. -/
theorem dismisses_iff (h : t.Awaits w) (a : Action) :
    t.Dismisses a ↔ t.snapshot.isOpen = true ∧
      (a = .close ∧ t.snapshot.status.isClosable = true ∨
        ∃ ms timer, a = .elapse ms ∧ w = some timer ∧ timer.deadline ≤ t.now + ms) := by
  rw [Dismisses, isOpen_step h]
  refine and_congr_right ?_
  intro hopen
  cases a with
  | close => simp [isOpenAfter, hopen]
  | elapse ms =>
    cases w with
    | none => simp [isOpenAfter, hopen, comesDue]
    | some timer => simp [isOpenAfter, hopen, comesDue]
  | _ => simp [isOpenAfter, hopen]

/-! ## What happens while a timer runs -/

/-- Steps that leave a timer alone let it run on, and leave the display open. -/
theorem Keeps.run {timer : Timer} {d : Nat} {as : List Action} (hk : t.Keeps d as)
    (h : t.Awaits (some timer)) (hd : timer.deadline = t.now + d) :
    (t.run as).Awaits (some timer) ∧ (t.run as).now = t.now + waited as ∧
      (t.run as).snapshot.isOpen = t.snapshot.isOpen := by
  induction as generalizing t d with
  | nil => exact ⟨h, rfl, rfl⟩
  | cons a as ih =>
    obtain ⟨hspares, hrest⟩ := hk
    have hstep := h.step a
    rw [timerAfter_of_spares hd hspares] at hstep
    have hnow := now_step h a
    have hlast := hstep.now_le timer rfl
    have hopen : (t.step a).snapshot.isOpen = t.snapshot.isOpen := by
      rw [isOpen_step h]
      unfold spares at hspares
      cases a with
      | begin taskId statusText => simp at hspares
      | close =>
        have hc : t.snapshot.status.isClosable = false := by
          simpa using (Bool.and_eq_true_iff.1 hspares).2
        simp [isOpenAfter, hc]
      | elapse ms =>
        have hms : ms < d := by simpa using (Bool.and_eq_true_iff.1 hspares).2
        have hdue : ¬ timer.deadline ≤ t.now + ms := by omega
        simp [isOpenAfter, comesDue, hdue]
      | _ => rfl
    -- the invariant of the induction: the deadline is fixed while the delay that is left goes down
    have hd' : timer.deadline = (t.step a).now + (d - a.duration) := by
      omega
    obtain ⟨hawaits, hnow', hopen'⟩ := ih hrest hstep hd'
    refine ⟨hawaits, ?_, hopen'.trans hopen⟩
    rw [run_cons, hnow', hnow, waited, Nat.add_assoc]

/-- What has become of a timer that a step has started and others have left alone. -/
theorem run_of_arms {start : Tracker} (hstart : start.Awaits none) {before mid : List Action}
    {arm : Action} {d : Nat} (harms : (start.run before).arms arm = some d)
    (hkeeps : ((start.run before).step arm).Keeps d mid) :
    ∃ timer, timer.deadline = (start.run before).now + d ∧
      (start.run (before ++ arm :: mid)).Awaits (some timer) ∧
      (start.run (before ++ arm :: mid)).now = (start.run before).now + waited mid ∧
      (start.run (before ++ arm :: mid)).snapshot.isOpen = (start.run before).snapshot.isOpen ∧
      (start.run (before ++ arm :: mid)).snapshot.status
        = mid.foldl statusAfter (statusAfter (start.run before).snapshot.status arm) := by
  obtain ⟨w, hw⟩ := hstart.run before
  have harmed := hw.step arm
  rw [timerAfter_of_arms harms] at harmed
  have hduration : arm.duration = 0 := by
    cases arm <;> first | rfl | cases harms
  have hnow : ((start.run before).step arm).now = (start.run before).now := by
    rw [now_step hw, hduration, Nat.add_zero]
  have hopen : ((start.run before).step arm).snapshot.isOpen
      = (start.run before).snapshot.isOpen := by
    rw [isOpen_step hw]
    cases arm <;> first | rfl | cases harms
  obtain ⟨hawaits, hnow', hopen'⟩ := hkeeps.run harmed (by rw [hnow])
  rw [run_append, run_cons]
  refine ⟨_, rfl, hawaits, ?_, hopen'.trans hopen, ?_⟩
  · rw [hnow', hnow]
  · rw [status_run harmed, status_step hw]

/-- **Every timer was started by the end of a task**, and has been left alone since. -/
theorem exists_arms {start : Tracker} (hstart : start.Awaits none) {as : List Action}
    {timer : Timer} (h : (start.run as).Awaits (some timer)) :
    ∃ before arm mid d, as = before ++ arm :: mid ∧ (start.run before).arms arm = some d ∧
      timer.deadline = (start.run before).now + d ∧ ((start.run before).step arm).Keeps d mid := by
  induction as using List.reverseRecOn generalizing timer with
  | nil => cases hstart.unique h
  | append_singleton as a ih =>
    obtain ⟨w, hw⟩ := hstart.run as
    rw [run_append] at h
    have hafter : (start.run as).timerAfter w a = some timer := (hw.step a).unique h
    rcases timerAfter_eq_some hafter with ⟨d, harms, hd⟩ | ⟨hsame, hspares⟩
    · exact ⟨as, a, [], d, rfl, harms, hd, trivial⟩
    · subst hsame
      -- the last step is one more that leaves it alone
      obtain ⟨before, arm, mid, d, rfl, harms, hd, hkeeps⟩ := ih hw
      refine ⟨before, arm, mid ++ [a], d, by simp, harms, hd, ?_⟩
      obtain ⟨-, -, -, hnow, -, -⟩ := run_of_arms hstart harms hkeeps
      -- the timer has not fired so far, so the delay covers all the waiting
      have hlast := hw.now_le timer rfl
      have hs := hspares (d - waited mid) (by rw [hnow] at hlast ⊢; omega)
      rw [run_append, run_cons] at hs
      rw [keeps_concat]
      exact ⟨hkeeps, hs⟩

/-! ## How a task runs again -/

/-- Whether a step may set the status. -/
def Action.setsStatus : Action → Bool
  | .begin _ _ | .apply _ | .finish _ _ _ _ | .fail _ => true
  | _ => false

/-- Whether a step is an update that sets the status to running. -/
def Action.resumes : Action → Bool
  | .apply e => e.status == .running
  | .finish status _ _ _ => status == .running
  | _ => false

theorem statusAfter_of_not_setsStatus {a : Action} (h : a.setsStatus = false) (s : Status) :
    statusAfter s a = s := by
  cases a <;> first | rfl | cases h

theorem foldl_statusAfter_of_not_setsStatus {as : List Action}
    (h : ∀ a ∈ as, a.setsStatus = false) (s : Status) : as.foldl statusAfter s = s := by
  induction as generalizing s with
  | nil => rfl
  | cons a as ih =>
    rw [List.foldl_cons, statusAfter_of_not_setsStatus (h a List.mem_cons_self),
      ih fun b hb => h b (List.mem_cons_of_mem a hb)]

/-- The step that has set the status to running last. -/
theorem exists_resumes {as : List Action} {s : Status} (hs : s ≠ .running)
    (hbegin : ∀ taskId statusText, .begin taskId statusText ∉ as)
    (h : as.foldl statusAfter s = .running) :
    ∃ front update back, as = front ++ update :: back ∧ update.resumes = true ∧
      ∀ a ∈ back, a.setsStatus = false := by
  induction as using List.reverseRecOn with
  | nil => exact absurd h hs
  | append_singleton as a ih =>
    rw [List.foldl_append] at h
    by_cases hset : a.setsStatus = true
    · refine ⟨as, a, [], rfl, ?_, fun b hb => absurd hb List.not_mem_nil⟩
      cases a with
      | begin taskId statusText => exact absurd (by simp) (hbegin taskId statusText)
      | apply e => exact beq_iff_eq.2 h
      | finish status percent statusText line => exact beq_iff_eq.2 h
      | fail message =>
        -- a failure leaves a task ended
        simp only [List.foldl_cons, List.foldl_nil, statusAfter] at h
        split at h
        · next hended =>
          rw [h] at hended
          cases hended
        · cases h
      | _ => cases hset
    · have hset' : a.setsStatus = false := Bool.eq_false_iff.2 hset
      have hbefore : as.foldl statusAfter s = .running := by
        rwa [List.foldl_cons, List.foldl_nil, statusAfter_of_not_setsStatus hset'] at h
      obtain ⟨front, update, back, rfl, hupdate, hback⟩ :=
        ih (fun taskId statusText hmem => hbegin taskId statusText (List.mem_append_left _ hmem))
          hbefore
      refine ⟨front, update, back ++ [a], by simp, hupdate, ?_⟩
      intro b hb
      rcases List.mem_append.1 hb with hb | hb
      · exact hback b hb
      · rw [List.mem_singleton.1 hb]
        exact hset'

/-- An update that sets the status to running, with nothing after it that sets the status. -/
theorem foldl_statusAfter_of_resumes {front back : List Action} {update : Action}
    (hupdate : update.resumes = true) (hback : ∀ a ∈ back, a.setsStatus = false) (s : Status) :
    (front ++ update :: back).foldl statusAfter s = .running := by
  have hset : ∀ s, statusAfter s update = .running := by
    intro s
    cases update with
    | apply e => exact beq_iff_eq.1 hupdate
    | finish status percent statusText line => exact beq_iff_eq.1 hupdate
    | _ => cases hupdate
  rw [List.foldl_append, List.foldl_cons, hset, foldl_statusAfter_of_not_setsStatus hback]

/-- No display is opened while a timer is left alone. -/
theorem Keeps.not_begin {d : Nat} {as : List Action} (h : t.Keeps d as)
    (taskId statusText : String) :
    .begin taskId statusText ∉ as := by
  induction as generalizing t d with
  | nil => exact List.not_mem_nil
  | cons a as ih =>
    rw [List.mem_cons]
    rintro (rfl | hmem)
    · have hspares := h.1
      simp [spares] at hspares
    · exact ih h.2 hmem

/-- The step that starts a timer has ended the task. -/
theorem isTerminal_of_arms {a : Action} {d : Nat} (h : t.arms a = some d) :
    (statusAfter t.snapshot.status a).isTerminal = true := by
  have hends : t.ends a = true := by
    unfold arms at h
    split at h
    · next hc => exact (Bool.and_eq_true_iff.1 hc).1
    · cases h
  cases a with
  | apply e => exact hends
  | finish status percent statusText line => exact hends
  | fail message =>
    have hrunning : t.snapshot.status.isTerminal = false := by simpa [ends] using hends
    rw [statusAfter, if_neg (by simp [hrunning])]
    rfl
  | _ => cases hends

/-! ## The result -/

/-- The steps of a run start a timer at the end of a task, while its display is open, then leave it
alone, set the status back to running, and wait until it is due after some more milliseconds. -/
def Revives (start : Tracker) (as : List Action) (ms : Nat) : Prop :=
  ∃ before arm front update back d, as = before ++ arm :: (front ++ update :: back) ∧
    (start.run before).snapshot.isOpen = true ∧ (start.run before).arms arm = some d ∧
    ((start.run before).step arm).Keeps d (front ++ update :: back) ∧
    update.resumes = true ∧ (∀ a ∈ back, a.setsStatus = false) ∧
    d ≤ waited (front ++ update :: back) + ms

/-- **When a step puts away the display of a running task**: just when it lets a timer come due that
was started before the task ran again. -/
theorem dismisses_running_iff {start : Tracker} (hstart : start.Awaits none) (as : List Action)
    (a : Action) :
    (start.run as).Dismisses a ∧ (start.run as).snapshot.status = .running ↔
      ∃ ms, a = .elapse ms ∧ start.Revives as ms := by
  obtain ⟨w, hw⟩ := hstart.run as
  rw [dismisses_iff hw]
  constructor
  · rintro ⟨⟨hopen, hcause⟩, hrunning⟩
    rcases hcause with ⟨-, hclosable⟩ | ⟨ms, timer, rfl, rfl, hdue⟩
    · rw [hrunning] at hclosable
      cases hclosable
    · obtain ⟨before, arm, mid, d, rfl, harms, hd, hkeeps⟩ := exists_arms hstart hw
      obtain ⟨-, -, -, hnow, hopen', hstatus⟩ := run_of_arms hstart harms hkeeps
      rw [hstatus] at hrunning
      -- the task had ended when the timer started, and runs now: an update has resumed it since
      have hended : statusAfter (start.run before).snapshot.status arm ≠ .running := by
        intro hr
        have hterminal := isTerminal_of_arms harms
        rw [hr] at hterminal
        cases hterminal
      obtain ⟨front, update, back, rfl, hupdate, hback⟩ :=
        exists_resumes hended hkeeps.not_begin hrunning
      refine ⟨ms, rfl, before, arm, front, update, back, d, rfl, hopen' ▸ hopen, harms, hkeeps,
        hupdate, hback, ?_⟩
      rw [hd, hnow] at hdue
      omega
  · rintro ⟨ms, rfl, before, arm, front, update, back, d, rfl, hopen, harms, hkeeps, hupdate, hback,
      hms⟩
    obtain ⟨timer, hd, hawaits, hnow, hopen', hstatus⟩ := run_of_arms hstart harms hkeeps
    refine ⟨⟨hopen'.trans hopen, .inr ⟨ms, timer, rfl, hw.unique hawaits, ?_⟩⟩, ?_⟩
    · rw [hd, hnow]
      omega
    · rw [hstatus]
      exact foldl_statusAfter_of_resumes hupdate hback _

/-- **Running tasks stay on display, or not.**  In a run of a tracker, whatever its policies, no
step puts away the display of a running task, just if no timer comes due that the end of a task has
started and that was left alone while a later update has set the status back to running. -/
theorem never_dismissed_while_running_iff (title : String) (canWait : Bool) (as : List Action) :
    (∀ before a behind, as = before ++ a :: behind → ((new title canWait).run before).Dismisses a →
      ((new title canWait).run before).snapshot.status ≠ .running) ↔
    ∀ before ms behind, as = before ++ .elapse ms :: behind →
      ¬ (new title canWait).Revives before ms := by
  have hiff := dismisses_running_iff (awaits_new title canWait)
  constructor
  · intro h before ms behind has hrevives
    obtain ⟨hdismisses, hrunning⟩ := (hiff before (.elapse ms)).2 ⟨ms, rfl, hrevives⟩
    exact h before (.elapse ms) behind has hdismisses hrunning
  · intro h before a behind has hdismisses hrunning
    obtain ⟨ms, rfl, hrevives⟩ := (hiff before a).1 ⟨hdismisses, hrunning⟩
    exact h before ms behind has hrevives

/-- An event that sets the status back to running does not stop the timer. -/
theorem dismissed_while_running :
    ¬ ∀ (title : String) (canWait : Bool) (as : List Action) (a : Action),
      ((new title canWait).run as).Dismisses a →
        ((new title canWait).run as).snapshot.status ≠ .running := by
  intro h
  refine h "T" true
    [.withPolicy (.after 1000), .begin "x" "go", .apply (.new "x" (.zero false) .success "w"),
      .apply (.new "x" (.zero false) .running "w")] (.elapse 1000) ⟨?_, ?_⟩ ?_
  · decide
  · decide
  · decide

end AssetSearch.Progress.Tracker
