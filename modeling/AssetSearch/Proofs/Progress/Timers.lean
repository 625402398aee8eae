/-
# The timer of a tracker

A tracker never has more than one timer.  Every step is described by what it does to this timer, to
the status and to the open flag, so that nothing later looks into lists of timers.

Key definitions: `Tracker.Awaits` (the invariant), `Tracker.arms`, `Tracker.timerAfter`,
`Tracker.Keeps`.  Key statements: `Awaits.step`, `isOpen_step`, `status_step`, `now_step`.
-/
import AssetSearch.Proofs.Progress.Displays

namespace AssetSearch.Progress.Tracker

variable {t : Tracker} {w : Option Timer}

/-- The tracker waits for one timer, or for none, and a timer that is past has fired. -/
structure Awaits (t : Tracker) (w : Option Timer) : Prop where
  timers : t.timers = w.toList
  pending : t.pending = w.map Timer.token
  now_le : ∀ timer, w = some timer → t.now ≤ timer.deadline
  canWait : ∀ timer, w = some timer → t.canWait = true

theorem awaits_new (title : String) (canWait : Bool) : (new title canWait).Awaits none where
  timers := rfl
  pending := rfl
  now_le := by
    intro timer h
    cases h
  canWait := by
    intro timer h
    cases h

/-! ## What a step does to the timer -/

/-- Whether a step ends the task. -/
def ends (t : Tracker) : Action → Bool
  | .apply e => e.status.isTerminal
  | .finish status _ _ _ => status.isTerminal
  | .fail _ => !t.snapshot.status.isTerminal
  | _ => false

/-- The delay of the timer that a step starts, if it starts one. -/
def arms (t : Tracker) (a : Action) : Option Nat :=
  if t.ends a && t.canWait then
    match t.policy with
    | .manual => none
    | .after delay => some delay
  else none

/-- The timer that the tracker waits for after a step. -/
def timerAfter (t : Tracker) (w : Option Timer) (a : Action) : Option Timer :=
  match t.arms a with
  | some delay => some ⟨t.nextToken, t.now + delay⟩
  | none =>
    match a with
    | .begin _ _ => none
    | .close => if t.snapshot.status.isClosable then none else w
    | .elapse ms => w.filter fun timer => t.now + ms < timer.deadline
    | _ => w

namespace Awaits

/-- A timer that is given up is gone. -/
theorem giveUp (h : t.Awaits w) : t.giveUp.Awaits none := by
  have hgone : t.giveUp.timers = [] ∧ t.giveUp.pending = none := by
    obtain ⟨htimers, hpending, -, -⟩ := h
    unfold Tracker.giveUp
    cases w with
    | none =>
      rw [hpending]
      exact ⟨htimers, hpending⟩
    | some timer =>
      rw [hpending, htimers]
      simp
  refine ⟨hgone.1, hgone.2, ?_, ?_⟩
  · intro timer hw
    cases hw
  · intro timer hw
    cases hw

/-- Changes of the display leave the timer alone. -/
theorem change (h : t.Awaits w) (f : Snapshot → Snapshot) : (t.change f).Awaits w :=
  ⟨h.timers, h.pending, h.now_le, h.canWait⟩

/-- The end of a task starts the timer, if the policy asks for one. -/
theorem schedule (h : t.Awaits w) :
    t.schedule.Awaits
      (match t.policy with
        | .manual => w
        | .after delay => if t.canWait then some ⟨t.nextToken, t.now + delay⟩ else w) := by
  unfold Tracker.schedule
  cases t.policy with
  | manual => exact h
  | after delay =>
    have hnone := h.giveUp
    have hsame : t.giveUp.canWait = t.canWait ∧ t.giveUp.now = t.now
        ∧ t.giveUp.nextToken = t.nextToken := by
      unfold Tracker.giveUp
      split <;> exact ⟨rfl, rfl, rfl⟩
    dsimp only
    rw [hsame.1]
    by_cases hc : t.canWait = true
    · rw [if_pos hc, if_pos hc]
      refine ⟨?_, ?_, ?_, ?_⟩
      · rw [hnone.timers, hsame.2.1, hsame.2.2]
        rfl
      · rw [hsame.2.2]
        rfl
      · intro timer htimer
        obtain rfl := Option.some.inj htimer
        rw [hsame.2.1]
        exact Nat.le_add_right _ _
      · intro timer _
        exact hc
    · rw [if_neg hc, if_neg hc]
      -- without timers there was none to give up
      have hw : w = none := by
        cases w with
        | none => rfl
        | some timer => exact absurd (h.canWait timer rfl) hc
      rw [hw]
      exact hnone

theorem scheduleIf (h : t.Awaits w) {a : Action} {c : Bool} (hc : t.ends a = c) :
    (t.scheduleIf c).Awaits
      (match t.arms a with
        | some delay => some ⟨t.nextToken, t.now + delay⟩
        | none => w) := by
  subst hc
  unfold Tracker.scheduleIf arms
  cases he : t.ends a with
  | false => exact h
  | true =>
    have hs := h.schedule
    cases hp : t.policy with
    | manual =>
      rw [hp] at hs
      simpa using hs
    | after delay =>
      rw [hp] at hs
      cases hcan : t.canWait <;> simpa [hcan] using hs

/-- A timer that is not due yet is waited for longer. -/
theorem elapse_of_lt (h : t.Awaits w) {ms : Nat}
    (hms : ∀ timer, w = some timer → t.now + ms < timer.deadline) :
    t.elapse ms = { t with now := t.now + ms } := by
  refine elapse_of_quiet ?_
  rw [h.timers]
  intro timer htimer
  exact hms timer (Option.mem_toList.1 htimer)

/-- A timer that is due puts the display away. -/
theorem elapse_of_due {timer : Timer} (h : t.Awaits (some timer)) {ms : Nat}
    (hms : timer.deadline ≤ t.now + ms) :
    t.elapse ms = ({ t with now := t.now + ms, timers := [] } : Tracker).dismiss := by
  have htimers : t.timers = [timer] := h.timers
  rw [elapse]
  dsimp only
  rw [htimers]
  simp [hms, fire]

theorem dismiss (h : t.Awaits w) : t.dismiss.Awaits none :=
  h.giveUp.change Snapshot.close

theorem elapse (h : t.Awaits w) (ms : Nat) :
    (t.elapse ms).Awaits (w.filter fun timer => t.now + ms < timer.deadline) := by
  by_cases hdue : ∃ timer, w = some timer ∧ timer.deadline ≤ t.now + ms
  · obtain ⟨timer, rfl, hms⟩ := hdue
    have hnone : (some timer).filter (fun timer => decide (t.now + ms < timer.deadline))
        = none := by
      rw [Option.filter_some, if_neg (by simpa using hms)]
    -- the timer fires, and the dismissal cancels what is no longer there
    have hfired : ({ t with now := t.now + ms, timers := [] } : Tracker).dismiss.timers = [] ∧
        ({ t with now := t.now + ms, timers := [] } : Tracker).dismiss.pending = none := by
      have hpending : t.pending = some timer.token := h.pending
      unfold Tracker.dismiss Tracker.change Tracker.giveUp
      rw [hpending]
      exact ⟨rfl, rfl⟩
    rw [h.elapse_of_due hms, hnone]
    refine ⟨hfired.1, hfired.2, ?_, ?_⟩
    · intro timer hw
      cases hw
    · intro timer hw
      cases hw
  · have hlater : ∀ timer, w = some timer → t.now + ms < timer.deadline := by
      intro timer hw
      exact Nat.lt_of_not_le fun hle => hdue ⟨timer, hw, hle⟩
    -- no timer is due, so the one that runs goes on
    have hsame : w.filter (fun timer => decide (t.now + ms < timer.deadline)) = w := by
      cases w with
      | none => rfl
      | some timer => rw [Option.filter_some, if_pos (by simpa using hlater timer rfl)]
    rw [h.elapse_of_lt hlater, hsame]
    exact ⟨h.timers, h.pending, fun timer hw => Nat.le_of_lt (hlater timer hw), h.canWait⟩

/-- **Every step keeps the invariant.** -/
theorem step (h : t.Awaits w) (a : Action) : (t.step a).Awaits (t.timerAfter w a) := by
  cases a with
  | withPolicy policy => exact ⟨h.timers, h.pending, h.now_le, h.canWait⟩
  | withCancel cancellable => exact ⟨h.timers, h.pending, h.now_le, h.canWait⟩
  | begin taskId statusText => exact h.giveUp.change fun s => s.begin taskId statusText
  | log message severity => exact h.change fun s => s.append ⟨message, severity⟩
  | apply e => exact (h.scheduleIf (a := .apply e) rfl).change fun s => s.apply e
  | setProgress percent statusText => exact h.change fun s => s.setProgress percent statusText
  | finish status percent statusText line =>
    exact (h.scheduleIf (a := .finish status percent statusText line) rfl).change fun s =>
      s.finish status percent statusText line
  | fail message => exact (h.scheduleIf (a := .fail message) rfl).change fun s => s.fail message
  | close =>
    show (t.close.2).Awaits (if t.snapshot.status.isClosable then none else w)
    rw [close]
    split
    · exact h.dismiss
    · exact h
  | elapse ms => exact h.elapse ms

end Awaits

/-! ## What a step shows -/

/-- Whether a timer comes due within some milliseconds. -/
def comesDue (t : Tracker) (w : Option Timer) (ms : Nat) : Bool :=
  w.any fun timer => timer.deadline ≤ t.now + ms

/-- Whether the display is open after a step. -/
def isOpenAfter (t : Tracker) (w : Option Timer) : Action → Bool
  | .begin _ _ => true
  | .close => t.snapshot.isOpen && !t.snapshot.status.isClosable
  | .elapse ms => t.snapshot.isOpen && !t.comesDue w ms
  | _ => t.snapshot.isOpen

theorem isOpen_step (h : t.Awaits w) (a : Action) :
    (t.step a).snapshot.isOpen = t.isOpenAfter w a := by
  cases a with
  | withPolicy policy => rfl
  | withCancel cancellable => rfl
  | begin taskId statusText => exact congrArg Snapshot.isOpen (snapshot_begin t taskId statusText)
  | log message severity => rfl
  | apply e =>
    show (t.apply e).snapshot.isOpen = t.snapshot.isOpen
    rw [snapshot_apply]
    rfl
  | setProgress percent statusText => rfl
  | finish status percent statusText line =>
    show (t.finish status percent statusText line).snapshot.isOpen = t.snapshot.isOpen
    rw [snapshot_finish]
    rfl
  | fail message =>
    show (t.fail message).2.snapshot.isOpen = t.snapshot.isOpen
    rw [snapshot_fail, Snapshot.fail]
    split <;> rfl
  | close =>
    show t.close.2.snapshot.isOpen = (t.snapshot.isOpen && !t.snapshot.status.isClosable)
    rw [close]
    split
    · next hc =>
      rw [snapshot_dismiss, hc]
      simp [Snapshot.close, Snapshot.bump]
    · next hc => simp [hc]
  | elapse ms =>
    show (t.elapse ms).snapshot.isOpen = (t.snapshot.isOpen && !t.comesDue w ms)
    cases w with
    | none =>
      rw [h.elapse_of_lt (by intro timer hw; cases hw)]
      simp [comesDue]
    | some timer =>
      by_cases hms : timer.deadline ≤ t.now + ms
      · rw [h.elapse_of_due hms, snapshot_dismiss]
        simp [comesDue, hms, Snapshot.close, Snapshot.bump]
      · rw [h.elapse_of_lt (by intro other hw; obtain rfl := Option.some.inj hw; omega)]
        simp [comesDue, hms]

/-- The status after a step. -/
def statusAfter (status : Status) : Action → Status
  | .begin _ _ => .running
  | .apply e => e.status
  | .finish status _ _ _ => status
  | .fail _ => if status.isTerminal then status else .error
  | _ => status

theorem status_step (h : t.Awaits w) (a : Action) :
    (t.step a).snapshot.status = statusAfter t.snapshot.status a := by
  cases a with
  | withPolicy policy => rfl
  | withCancel cancellable => rfl
  | begin taskId statusText => exact congrArg Snapshot.status (snapshot_begin t taskId statusText)
  | log message severity => rfl
  | apply e => exact congrArg Snapshot.status (snapshot_apply t e)
  | setProgress percent statusText => rfl
  | finish status percent statusText line =>
    exact congrArg Snapshot.status (snapshot_finish t status percent statusText line)
  | fail message =>
    refine (congrArg Snapshot.status (snapshot_fail t message)).trans ?_
    rw [Snapshot.fail, statusAfter]
    split <;> rfl
  | close =>
    show t.close.2.snapshot.status = t.snapshot.status
    rw [close]
    split
    · rw [snapshot_dismiss]
      rfl
    · rfl
  | elapse ms =>
    show (t.elapse ms).snapshot.status = t.snapshot.status
    by_cases hdue : ∃ timer, w = some timer ∧ timer.deadline ≤ t.now + ms
    · obtain ⟨timer, rfl, hms⟩ := hdue
      rw [h.elapse_of_due hms, snapshot_dismiss]
      rfl
    · rw [h.elapse_of_lt fun timer hw => Nat.lt_of_not_le fun hle => hdue ⟨timer, hw, hle⟩]

/-! ## Time -/

@[simp] theorem now_giveUp : t.giveUp.now = t.now := by
  unfold giveUp
  split <;> rfl

@[simp] theorem now_change (f : Snapshot → Snapshot) : (t.change f).now = t.now := rfl

@[simp] theorem now_scheduleIf (c : Bool) : (t.scheduleIf c).now = t.now := by
  unfold scheduleIf schedule
  split
  · split
    · rfl
    · dsimp only
      split <;> simp
  · rfl

/-- The milliseconds that pass in a step. -/
def Action.duration : Action → Nat
  | .elapse ms => ms
  | _ => 0

theorem now_step (h : t.Awaits w) (a : Action) : (t.step a).now = t.now + a.duration := by
  cases a with
  | withPolicy policy => rfl
  | withCancel cancellable => rfl
  | begin taskId statusText =>
    show (t.begin taskId statusText).now = t.now
    simp [begin]
  | log message severity => rfl
  | apply e =>
    show (t.apply e).now = t.now
    simp [apply]
  | setProgress percent statusText => rfl
  | finish status percent statusText line =>
    show (t.finish status percent statusText line).now = t.now
    simp [finish]
  | fail message =>
    show (t.fail message).2.now = t.now
    simp [fail]
  | close =>
    show t.close.2.now = t.now
    rw [close]
    split
    · simp [dismiss]
    · rfl
  | elapse ms =>
    show (t.elapse ms).now = t.now + ms
    by_cases hdue : ∃ timer, w = some timer ∧ timer.deadline ≤ t.now + ms
    · obtain ⟨timer, rfl, hms⟩ := hdue
      rw [h.elapse_of_due hms]
      simp [dismiss]
    · rw [h.elapse_of_lt fun timer hw => Nat.lt_of_not_le fun hle => hdue ⟨timer, hw, hle⟩]

/-! ## Runs -/

/-- The tracker after some steps. -/
def run (t : Tracker) (as : List Action) : Tracker :=
  as.foldl step t

@[simp] theorem run_nil (t : Tracker) : t.run [] = t := rfl

@[simp] theorem run_cons (t : Tracker) (a : Action) (as : List Action) :
    t.run (a :: as) = (t.step a).run as := rfl

theorem run_append (t : Tracker) (as as' : List Action) :
    t.run (as ++ as') = (t.run as).run as' := by
  rw [run, run, run, List.foldl_append]

/-- The timer that a tracker waits for is determined. -/
theorem Awaits.unique {w' : Option Timer} (h : t.Awaits w) (h' : t.Awaits w') : w = w' := by
  have hlist := h.timers.symm.trans h'.timers
  cases w <;> cases w' <;> simp_all

/-- In every run there is at most one timer. -/
theorem Awaits.run (h : t.Awaits w) (as : List Action) : ∃ w', (t.run as).Awaits w' := by
  induction as generalizing t w with
  | nil => exact ⟨w, h⟩
  | cons a as ih => exact ih (h.step a)

theorem status_run (h : t.Awaits w) (as : List Action) :
    (t.run as).snapshot.status = as.foldl statusAfter t.snapshot.status := by
  induction as generalizing t w with
  | nil => rfl
  | cons a as ih => rw [run_cons, ih (h.step a), status_step h, List.foldl_cons]

/-! ## Timers that are kept -/

/-- Whether a step leaves alone a timer that is due after some milliseconds: it starts none, opens
no display, puts none away, and is over before. -/
def spares (t : Tracker) (d : Nat) (a : Action) : Bool :=
  (t.arms a).isNone &&
    match a with
    | .begin _ _ => false
    | .close => !t.snapshot.status.isClosable
    | .elapse ms => ms < d
    | _ => true

/-- All steps leave the timer alone. -/
def Keeps (t : Tracker) (d : Nat) : List Action → Prop
  | [] => True
  | a :: as => t.spares d a = true ∧ (t.step a).Keeps (d - a.duration) as

/-- The milliseconds that pass in some steps. -/
def waited : List Action → Nat
  | [] => 0
  | a :: as => a.duration + waited as

theorem keeps_concat (d : Nat) (as : List Action) (a : Action) :
    t.Keeps d (as ++ [a]) ↔ t.Keeps d as ∧ (t.run as).spares (d - waited as) a = true := by
  induction as generalizing t d with
  | nil => simp [Keeps, waited]
  | cons b as ih =>
    rw [List.cons_append, Keeps, Keeps, ih, run_cons, and_assoc]
    -- what is left of the delay does not depend on how the waiting is split
    have hd : d - b.duration - waited as = d - waited (b :: as) := by
      rw [waited]
      omega
    rw [hd]

/-- A timer that is left alone is waited for further. -/
theorem timerAfter_of_spares {timer : Timer} {d : Nat} {a : Action}
    (hd : timer.deadline = t.now + d) (h : t.spares d a = true) :
    t.timerAfter (some timer) a = some timer := by
  unfold spares at h
  rw [Bool.and_eq_true, Option.isNone_iff_eq_none] at h
  obtain ⟨harms, h⟩ := h
  unfold timerAfter
  rw [harms]
  cases a with
  | begin taskId statusText => cases h
  | close =>
    have hc : t.snapshot.status.isClosable = false := by simpa using h
    simp [hc]
  | elapse ms =>
    have hms : ms < d := by simpa using h
    show (some timer).filter (fun timer => decide (t.now + ms < timer.deadline)) = some timer
    rw [Option.filter_some, if_pos (by simp; omega)]
  | _ => rfl

/-- Where the timer of a tracker comes from: the step has started it, or has left it alone. -/
theorem timerAfter_eq_some {timer : Timer} {a : Action} (h : t.timerAfter w a = some timer) :
    (∃ d, t.arms a = some d ∧ timer.deadline = t.now + d) ∨
      (w = some timer ∧ ∀ d, timer.deadline = t.now + d → t.spares d a = true) := by
  unfold timerAfter at h
  cases harms : t.arms a with
  | some d =>
    rw [harms] at h
    obtain rfl := Option.some.inj h
    exact .inl ⟨d, rfl, rfl⟩
  | none =>
    rw [harms] at h
    right
    cases a with
    | begin taskId statusText => cases h
    | close =>
      dsimp only at h
      split at h
      · cases h
      · next hc => exact ⟨h, fun d _ => by simp [spares, harms, hc]⟩
    | elapse ms =>
      have hfilter := Option.filter_eq_some_iff.1 h
      refine ⟨hfilter.1, ?_⟩
      intro d hd
      have hms : t.now + ms < timer.deadline := by simpa using hfilter.2
      simp only [spares, harms, Option.isNone_none, Bool.true_and, decide_eq_true_eq]
      omega
    | _ => exact ⟨h, fun d _ => by simp [spares, harms]⟩

/-- The end of a task starts a timer. -/
theorem timerAfter_of_arms {d : Nat} {a : Action} (h : t.arms a = some d) :
    t.timerAfter w a = some ⟨t.nextToken, t.now + d⟩ := by
  unfold timerAfter
  rw [h]

end AssetSearch.Progress.Tracker
