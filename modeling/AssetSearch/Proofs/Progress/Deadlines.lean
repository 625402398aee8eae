/-
# When the timer puts a display away

Under a fixed delay the timer belongs to one session: it goes off exactly the delay after the update
that has ended the task, unless before that a display is opened or put away, or another update ends
the task.  Time may pass in steps of any size, so the moment is looked for inside of a step.

Key definitions: `Tracker.TimesOutIn`, `Tracker.renews`.  Key statements: `Awaits.elapse_add`,
`timesOutIn_iff`, `timers_keep_to_their_session`.
-/
import AssetSearch.Proofs.Progress.Dismissal

namespace AssetSearch.Progress.Tracker

variable {t : Tracker} {w : Option Timer} {d : Nat}

/-- **What a wait does**: it lets the timer come due, which puts the display away, or only moves the
clock. -/
theorem Awaits.elapse_cases (h : t.Awaits w) (ms : Nat) :
    (∃ timer, w = some timer ∧ timer.deadline ≤ t.now + ms ∧
      t.elapse ms = ({ t with now := t.now + ms, timers := [] } : Tracker).dismiss) ∨
    (∀ timer, w = some timer → t.now + ms < timer.deadline) ∧
      t.elapse ms = { t with now := t.now + ms } := by
  by_cases hdue : ∃ timer, w = some timer ∧ timer.deadline ≤ t.now + ms
  · obtain ⟨timer, rfl, hms⟩ := hdue
    exact .inl ⟨timer, rfl, hms, h.elapse_of_due hms⟩
  · have hlater : ∀ timer, w = some timer → t.now + ms < timer.deadline := by
      intro timer hw
      exact Nat.lt_of_not_le fun hle => hdue ⟨timer, hw, hle⟩
    exact .inr ⟨hlater, h.elapse_of_lt hlater⟩

/-! ## A fixed delay -/

/-- The tracker can wait, and puts its display away a fixed delay after the end of a task. -/
structure Delays (t : Tracker) (d : Nat) : Prop where
  canWait : t.canWait = true
  policy : t.policy = .after d

namespace Delays

theorem giveUp (h : t.Delays d) : t.giveUp.Delays d := by
  unfold Tracker.giveUp
  split
  · exact h
  · exact ⟨h.canWait, h.policy⟩

theorem change (h : t.Delays d) (f : Snapshot → Snapshot) : (t.change f).Delays d :=
  ⟨h.canWait, h.policy⟩

theorem dismiss (h : t.Delays d) : t.dismiss.Delays d :=
  h.giveUp.change Snapshot.close

theorem scheduleIf (h : t.Delays d) (c : Bool) : (t.scheduleIf c).Delays d := by
  unfold Tracker.scheduleIf Tracker.schedule
  split
  · split
    · exact h
    · have hgone := h.giveUp
      dsimp only
      split
      · exact ⟨hgone.canWait, hgone.policy⟩
      · exact hgone
  · exact h

/-- Only a change of the policy touches the delay. -/
theorem step (hd : t.Delays d) (h : t.Awaits w) {a : Action}
    (ha : ∀ policy, a ≠ .withPolicy policy) : (t.step a).Delays d := by
  cases a with
  | withPolicy policy => exact absurd rfl (ha policy)
  | withCancel cancellable => exact ⟨hd.canWait, hd.policy⟩
  | begin taskId statusText => exact hd.giveUp.change fun s => s.begin taskId statusText
  | log message severity => exact hd.change fun s => s.append ⟨message, severity⟩
  | apply e => exact (hd.scheduleIf e.status.isTerminal).change fun s => s.apply e
  | setProgress percent statusText => exact hd.change fun s => s.setProgress percent statusText
  | finish status percent statusText line =>
    exact (hd.scheduleIf status.isTerminal).change fun s =>
      s.finish status percent statusText line
  | fail message =>
    exact (hd.scheduleIf (!t.snapshot.status.isTerminal)).change fun s => s.fail message
  | close =>
    show t.close.2.Delays d
    rw [close]
    split
    · exact hd.dismiss
    · exact hd
  | elapse ms =>
    show (t.elapse ms).Delays d
    rcases h.elapse_cases ms with ⟨timer, -, -, heq⟩ | ⟨-, heq⟩
    · rw [heq]
      exact dismiss ⟨hd.canWait, hd.policy⟩
    · rw [heq]
      exact ⟨hd.canWait, hd.policy⟩

theorem run (hd : t.Delays d) (h : t.Awaits w) {as : List Action}
    (has : ∀ policy, .withPolicy policy ∉ as) : (t.run as).Delays d := by
  induction as generalizing t w with
  | nil => exact hd
  | cons a as ih =>
    have ha : ∀ policy, a ≠ .withPolicy policy := by
      rintro policy rfl
      exact has policy List.mem_cons_self
    refine ih (hd.step h ha) (h.step a) ?_
    intro policy hmem
    exact has policy (List.mem_cons_of_mem a hmem)

/-- Each end of a task starts the timer. -/
theorem arms_eq (h : t.Delays d) (a : Action) : t.arms a = if t.ends a then some d else none := by
  rw [arms, h.canWait, h.policy, Bool.and_true]

end Delays

/-! ## Time in parts -/

namespace Awaits

/-- A timer that is not due yet is still waited for. -/
theorem elapse_keep (h : t.Awaits w) {ms : Nat}
    (hms : ∀ timer, w = some timer → t.now + ms < timer.deadline) : (t.elapse ms).Awaits w := by
  rw [h.elapse_of_lt hms]
  exact ⟨h.timers, h.pending, fun timer hw => Nat.le_of_lt (hms timer hw), h.canWait⟩

/-- A timer that was due is gone. -/
theorem elapse_expire {timer : Timer} (h : t.Awaits (some timer)) {ms : Nat}
    (hms : timer.deadline ≤ t.now + ms) : (t.elapse ms).Awaits none := by
  have hgone := h.elapse ms
  rwa [Option.filter_some, if_neg (by simpa using hms)] at hgone

end Awaits

/-- Putting the display away does not depend on the clock. -/
theorem dismiss_at (t : Tracker) (now : Nat) :
    ({ t with now := now } : Tracker).dismiss = { t.dismiss with now := now } := by
  unfold dismiss giveUp
  dsimp only
  split <;> rfl

/-- **Waiting twice is waiting once**, for the sum. -/
theorem Awaits.elapse_add (h : t.Awaits w) (a b : Nat) :
    t.elapse (a + b) = (t.elapse a).elapse b := by
  rcases h.elapse_cases a with ⟨timer, rfl, hdue, hfirst⟩ | ⟨hlater, hfirst⟩
  · -- it goes off in the first part, and then there is no timer any more
    have hclock := dismiss_at { t with timers := [] }
    rw [(h.elapse_expire hdue).elapse_of_lt (by intro timer hw; cases hw), hfirst,
      h.elapse_of_due (by omega : timer.deadline ≤ t.now + (a + b)),
      hclock (t.now + (a + b)), hclock (t.now + a), Nat.add_assoc]
  · have hkept := h.elapse_keep hlater
    rw [hfirst] at hkept ⊢
    rcases h.elapse_cases (a + b) with ⟨timer, rfl, hdue, hboth⟩ | ⟨hnever, hboth⟩
    · rw [hboth, hkept.elapse_of_due (by dsimp only; omega)]
      dsimp only
      rw [Nat.add_assoc]
    · rw [hboth, hkept.elapse_of_lt]
      · dsimp only
        rw [Nat.add_assoc]
      · intro timer hw
        have hlast := hnever timer hw
        dsimp only
        omega

/-- Some pauses, with nothing between them, are one pause. -/
theorem Awaits.run_pauses (h : t.Awaits w) {pauses : List Nat} (hne : pauses ≠ []) :
    t.run (pauses.map .elapse) = t.elapse (waited (pauses.map .elapse)) := by
  induction pauses generalizing t w with
  | nil => exact absurd rfl hne
  | cons ms pauses ih =>
    cases pauses with
    | nil => rfl
    | cons ms' pauses =>
      rw [List.map_cons, run_cons, waited, Action.duration, h.elapse_add]
      exact ih (h.step (.elapse ms)) (List.cons_ne_nil ms' pauses)

/-! ## The moment at which a timer goes off -/

/-- A timer puts the display away after exactly so many more milliseconds: a shorter wait shows
nothing. -/
def TimesOutIn (t : Tracker) (k : Nat) : Prop :=
  (∀ j < k, (t.elapse j).snapshot = t.snapshot) ∧ (t.elapse k).snapshot = t.snapshot.close.bump

theorem close_bump_ne (s : Snapshot) : s.close.bump ≠ s := by
  intro h
  have hrevision : s.revision + 1 = s.revision := congrArg Snapshot.revision h
  omega

theorem snapshot_elapse_of_due {timer : Timer} (h : t.Awaits (some timer)) {ms : Nat}
    (hms : timer.deadline ≤ t.now + ms) : (t.elapse ms).snapshot = t.snapshot.close.bump := by
  rw [h.elapse_of_due hms, snapshot_dismiss]

/-- Only a timer that comes due shows in a wait. -/
theorem exists_due_of_snapshot_ne (h : t.Awaits w) {ms : Nat}
    (hshown : (t.elapse ms).snapshot ≠ t.snapshot) :
    ∃ timer, w = some timer ∧ timer.deadline ≤ t.now + ms := by
  rcases h.elapse_cases ms with ⟨timer, hw, hdue, -⟩ | ⟨-, heq⟩
  · exact ⟨timer, hw, hdue⟩
  · rw [heq] at hshown
    exact absurd rfl hshown

theorem timesOutIn_iff (h : t.Awaits w) (k : Nat) :
    t.TimesOutIn k ↔ ∃ timer, w = some timer ∧ timer.deadline = t.now + k := by
  constructor
  · rintro ⟨hquiet, hshown⟩
    obtain ⟨timer, rfl, hdue⟩ :=
      exists_due_of_snapshot_ne h (by rw [hshown]; exact close_bump_ne t.snapshot)
    refine ⟨timer, rfl, ?_⟩
    -- were it due before, a shorter wait would show it
    by_contra hne
    have hnow := h.now_le timer rfl
    have hshort := hquiet (timer.deadline - t.now) (by omega)
    rw [snapshot_elapse_of_due h (by omega)] at hshort
    exact close_bump_ne t.snapshot hshort
  · rintro ⟨timer, rfl, hdeadline⟩
    refine ⟨?_, snapshot_elapse_of_due h (by omega)⟩
    intro j hj
    rw [h.elapse_of_lt]
    intro other hother
    obtain rfl := Option.some.inj hother
    omega

/-- A wait that shows something has the moment of a timer in it. -/
theorem exists_timesOutIn (h : t.Awaits w) {ms : Nat}
    (hshown : (t.elapse ms).snapshot ≠ t.snapshot) : ∃ k ≤ ms, t.TimesOutIn k := by
  obtain ⟨timer, rfl, hdue⟩ := exists_due_of_snapshot_ne h hshown
  have hnow := h.now_le timer rfl
  refine ⟨timer.deadline - t.now, by omega, (timesOutIn_iff h _).2 ⟨timer, rfl, ?_⟩⟩
  omega

/-- A display that is not open stays so until one is opened. -/
theorem not_isOpen_run (h : t.Awaits w) (hclosed : t.snapshot.isOpen = false) {as : List Action}
    (has : ∀ taskId statusText, .begin taskId statusText ∉ as) :
    (t.run as).snapshot.isOpen = false := by
  induction as generalizing t w with
  | nil => exact hclosed
  | cons a as ih =>
    refine ih (h.step a) ?_ ?_
    · rw [isOpen_step h]
      cases a with
      | begin taskId statusText => exact absurd List.mem_cons_self (has taskId statusText)
      | _ => simp [isOpenAfter, hclosed]
    · intro taskId statusText hmem
      exact has taskId statusText (List.mem_cons_of_mem a hmem)

/-! ## Sessions -/

/-- Whether a step ends the session that a timer belongs to: it opens a display, puts one away, or
ends the task once more. -/
def renews (t : Tracker) : Action → Bool
  | .begin _ _ => true
  | .close => t.snapshot.status.isClosable
  | a => t.ends a

theorem Delays.not_renews_of_spares {k : Nat} {a : Action} (hd : t.Delays d)
    (h : t.spares k a = true) : t.renews a = false := by
  unfold spares at h
  rw [Bool.and_eq_true, hd.arms_eq] at h
  have hends : t.ends a = false := by
    cases he : t.ends a with
    | false => rfl
    | true => simp [he] at h
  cases a with
  | begin taskId statusText => simp at h
  | close =>
    show t.snapshot.status.isClosable = false
    simpa using h.2
  | _ => exact hends

/-- Each of the steps that leave a timer alone does so. -/
theorem Keeps.spares {front back : List Action} {a : Action}
    (h : t.Keeps d (front ++ a :: back)) : (t.run front).spares (d - waited front) a = true := by
  induction front generalizing t d with
  | nil => exact h.1
  | cons b front ih =>
    have hrest := ih h.2
    rwa [Nat.sub_sub] at hrest

/-! ## The result -/

/-- A tracker whose display is put away so many milliseconds after the end of a task. -/
def newAfter (title : String) (d : Nat) : Tracker :=
  (new title true).withPolicy (.after d)

theorem awaits_newAfter (title : String) (d : Nat) : (newAfter title d).Awaits none :=
  (awaits_new title true).step (.withPolicy (.after d))

theorem delays_newAfter (title : String) (d : Nat) : (newAfter title d).Delays d :=
  ⟨rfl, rfl⟩

/-- The timer that goes off has been started by the latest end of a task, exactly its delay ago, and
its session has lasted since. -/
theorem Delays.exists_start_of_timesOutIn {start : Tracker} (hd : start.Delays d)
    (hstart : start.Awaits none) {as : List Action} (has : ∀ policy, .withPolicy policy ∉ as)
    {k : Nat} (h : (start.run as).TimesOutIn k) :
    ∃ before arm mid, as = before ++ arm :: mid ∧ (start.run before).ends arm = true ∧
      waited mid + k = d ∧
      ∀ front a back, mid = front ++ a :: back →
        (start.run (before ++ arm :: front)).renews a = false := by
  obtain ⟨w, hw⟩ := hstart.run as
  obtain ⟨timer, rfl, hdeadline⟩ := (timesOutIn_iff hw k).1 h
  obtain ⟨before, arm, mid, delay, rfl, harms, hstarted, hkeeps⟩ := exists_arms hstart hw
  have hbefore : (start.run before).Delays d :=
    hd.run hstart fun policy hmem => has policy (List.mem_append_left _ hmem)
  obtain ⟨hends, rfl⟩ : (start.run before).ends arm = true ∧ d = delay := by
    rw [hbefore.arms_eq] at harms
    cases he : (start.run before).ends arm with
    | false => simp [he] at harms
    | true => simpa [he] using harms
  obtain ⟨-, -, -, hnow, -, -⟩ := run_of_arms hstart harms hkeeps
  refine ⟨before, arm, mid, rfl, hends, by omega, ?_⟩
  rintro front a back rfl
  have hthen : (start.run (before ++ arm :: front)).Delays d := by
    refine hd.run hstart ?_
    intro policy hmem
    refine has policy ?_
    rw [← List.cons_append, ← List.append_assoc]
    exact List.mem_append_left _ hmem
  have hspares := hkeeps.spares
  rw [← run_cons, ← run_append] at hspares
  exact hthen.not_renews_of_spares hspares

/-- After the end of a task the timer goes off in exactly its delay, if nothing is done. -/
theorem Delays.timesOutIn_of_ends (hd : t.Delays d) (h : t.Awaits w) {arm : Action}
    (hends : t.ends arm = true) : (t.step arm).TimesOutIn d := by
  have harms : t.arms arm = some d := by
    rw [hd.arms_eq, if_pos hends]
  have hstep := h.step arm
  rw [timerAfter_of_arms harms] at hstep
  refine (timesOutIn_iff hstep d).2 ⟨_, rfl, ?_⟩
  have hduration : arm.duration = 0 := by
    cases arm <;> first | rfl | cases hends
  rw [now_step h, hduration, Nat.add_zero]

/-- **Timers never leak into another session.**  A tracker with a fixed delay has at most one timer
at any time.  When a wait shows something, a timer goes off at one moment in it: exactly the delay
after the latest end of a task, with no display opened or put away since.  And if nothing is done
for the delay after the end of a task, the display goes away at that moment and stays away until one
is opened. -/
theorem timers_keep_to_their_session (title : String) (d : Nat) (as : List Action)
    (hfixed : ∀ policy, .withPolicy policy ∉ as) :
    let start := newAfter title d
    let t := start.run as
    t.timers.length ≤ 1 ∧
    (∀ ms, (t.elapse ms).snapshot ≠ t.snapshot →
      ∃ k ≤ ms, t.TimesOutIn k ∧
        ∃ before arm mid, as = before ++ arm :: mid ∧
          (start.run before).ends arm = true ∧ waited mid + k = d ∧
          ∀ front a back, mid = front ++ a :: back →
            (start.run (before ++ arm :: front)).renews a = false) ∧
    ∀ arm, t.ends arm = true →
      (t.step arm).TimesOutIn d ∧
      ∀ pauses later, pauses ≠ [] → d ≤ waited (pauses.map .elapse) →
        (∀ taskId statusText, .begin taskId statusText ∉ later) →
        ((t.step arm).run (pauses.map .elapse ++ later)).snapshot.isOpen = false := by
  intro start t
  have hstart : start.Awaits none := awaits_newAfter title d
  have hdelays : start.Delays d := delays_newAfter title d
  obtain ⟨w, hw⟩ : ∃ w, t.Awaits w := hstart.run as
  refine ⟨?_, ?_, ?_⟩
  · rw [hw.timers]
    cases w <;> simp
  · intro ms hshown
    obtain ⟨k, hk, htimes⟩ := exists_timesOutIn hw hshown
    exact ⟨k, hk, htimes, hdelays.exists_start_of_timesOutIn hstart hfixed htimes⟩
  · intro arm hends
    have htimes := (hdelays.run hstart hfixed).timesOutIn_of_ends hw hends
    refine ⟨htimes, ?_⟩
    intro pauses later hne hlong hlater
    have harmed := hw.step arm
    obtain ⟨timer, htimer, hdeadline⟩ := (timesOutIn_iff harmed d).1 htimes
    rw [htimer] at harmed
    rw [run_append, harmed.run_pauses hne]
    -- the pauses reach the moment at which the timer goes off
    refine not_isOpen_run (harmed.step (.elapse (waited (pauses.map .elapse)))) ?_ hlater
    show ((t.step arm).elapse (waited (pauses.map .elapse))).snapshot.isOpen = false
    rw [snapshot_elapse_of_due harmed (by omega)]
    rfl

/-- The steps of a display that is opened for another task while a timer runs, and whose task then
fails. -/
def reopened : List Action :=
  [.begin "x" "go", .apply (.new "x" (.zero false) .success "w"), .elapse 1000, .begin "y" "go",
    .fail "down", .elapse 500]

/-- The timer of the first task is gone; that of the second one goes off within the next wait. -/
theorem timer_of_reopened :
    (∀ policy, .withPolicy policy ∉ reopened) ∧
    (((newAfter "T" 3000).run reopened).elapse 4000).snapshot
      ≠ ((newAfter "T" 3000).run reopened).snapshot ∧
    (∃ k ≤ 4000, ((newAfter "T" 3000).run reopened).TimesOutIn k ∧
      ∃ before arm mid, reopened = before ++ arm :: mid ∧
        ((newAfter "T" 3000).run before).ends arm = true ∧ waited mid + k = 3000 ∧
        ∀ front a back, mid = front ++ a :: back →
          ((newAfter "T" 3000).run (before ++ arm :: front)).renews a = false) ∧
    ((newAfter "T" 3000).run reopened).ends (.finish .cancelled (.zero false) "" none) = true ∧
    ((((newAfter "T" 3000).run reopened).step (.finish .cancelled (.zero false) "" none)).run
      ([1000, 2000].map .elapse ++ [.close])).snapshot.isOpen = false := by
  have hfixed : ∀ policy, .withPolicy policy ∉ reopened := by
    intro policy
    simp [reopened]
  have hshown : (((newAfter "T" 3000).run reopened).elapse 4000).snapshot
      ≠ ((newAfter "T" 3000).run reopened).snapshot := by decide
  obtain ⟨-, hmoment, hquiet⟩ := timers_keep_to_their_session "T" 3000 reopened hfixed
  have hends : ((newAfter "T" 3000).run reopened).ends
      (.finish .cancelled (.zero false) "" none) = true := rfl
  refine ⟨hfixed, hshown, hmoment 4000 hshown, hends, ?_⟩
  refine (hquiet _ hends).2 [1000, 2000] [.close] (by decide) (by decide) ?_
  intro taskId statusText
  simp

end AssetSearch.Progress.Tracker
