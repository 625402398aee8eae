/-
# Timers and a policy that has changed

A tracker asks its policy when the task ends, and starts the timer then.  When the policy is set
later to leave the display to the operator, the timer that runs is not given up: it may put the
display away although the operator was to do so.

Key definitions: `Tracker.policyAfter`, `Tracker.Withdraws`.  Key statements: `shows_time_iff`,
`exists_withPolicy`, `manual_policy_kept_iff`.
-/
import AssetSearch.Proofs.Progress.Deadlines

namespace AssetSearch.Progress.Tracker

variable {t : Tracker} {w : Option Timer} {d : Nat}

/-! ## The policy in force -/

/-- The policy after a step. -/
def policyAfter (policy : DismissPolicy) : Action → DismissPolicy
  | .withPolicy policy => policy
  | _ => policy

@[simp] theorem policy_giveUp : t.giveUp.policy = t.policy := by
  unfold giveUp
  split <;> rfl

@[simp] theorem policy_change (f : Snapshot → Snapshot) : (t.change f).policy = t.policy := rfl

@[simp] theorem policy_scheduleIf (c : Bool) : (t.scheduleIf c).policy = t.policy := by
  unfold scheduleIf schedule
  split
  · split
    · rfl
    · dsimp only
      split <;> simp
  · rfl

theorem policy_step (h : t.Awaits w) (a : Action) : (t.step a).policy = policyAfter t.policy a := by
  cases a with
  | withPolicy policy => rfl
  | withCancel cancellable => rfl
  | begin taskId statusText =>
    show (t.begin taskId statusText).policy = t.policy
    simp [begin]
  | log message severity => rfl
  | apply e =>
    show (t.apply e).policy = t.policy
    simp [apply]
  | setProgress percent statusText => rfl
  | finish status percent statusText line =>
    show (t.finish status percent statusText line).policy = t.policy
    simp [finish]
  | fail message =>
    show (t.fail message).2.policy = t.policy
    simp [fail]
  | close =>
    show t.close.2.policy = t.policy
    rw [close]
    split
    · simp [dismiss]
    · rfl
  | elapse ms =>
    show (t.elapse ms).policy = t.policy
    rcases h.elapse_cases ms with ⟨timer, -, -, heq⟩ | ⟨-, heq⟩
    · rw [heq]
      simp [dismiss]
    · rw [heq]

theorem policy_run (h : t.Awaits w) (as : List Action) :
    (t.run as).policy = as.foldl policyAfter t.policy := by
  induction as generalizing t w with
  | nil => rfl
  | cons a as ih => rw [run_cons, ih (h.step a), policy_step h, List.foldl_cons]

/-- Steps that set no policy leave the one in force. -/
theorem foldl_policyAfter_of_fixed {as : List Action} (has : ∀ policy, .withPolicy policy ∉ as)
    (policy : DismissPolicy) : as.foldl policyAfter policy = policy := by
  induction as with
  | nil => rfl
  | cons a as ih =>
    have ha : policyAfter policy a = policy := by
      cases a with
      | withPolicy other => exact absurd List.mem_cons_self (has other)
      | _ => rfl
    rw [List.foldl_cons, ha]
    exact ih fun other hmem => has other (List.mem_cons_of_mem a hmem)

/-- A policy that has come into force was set, and none after it. -/
theorem exists_withPolicy {as : List Action} {policy last : DismissPolicy} (hne : policy ≠ last)
    (h : as.foldl policyAfter policy = last) :
    ∃ front back, as = front ++ .withPolicy last :: back ∧ ∀ other, .withPolicy other ∉ back := by
  induction as using List.reverseRecOn with
  | nil => exact absurd h hne
  | append_singleton as a ih =>
    rw [List.foldl_append, List.foldl_cons, List.foldl_nil] at h
    by_cases ha : ∃ other, a = .withPolicy other
    · obtain ⟨other, rfl⟩ := ha
      obtain rfl : other = last := h
      exact ⟨as, [], rfl, fun _ => List.not_mem_nil⟩
    · have hkept : policyAfter (as.foldl policyAfter policy) a = as.foldl policyAfter policy := by
        cases a with
        | withPolicy other => exact absurd ⟨other, rfl⟩ ha
        | _ => rfl
      obtain ⟨front, back, rfl, hback⟩ := ih (hkept.symm.trans h)
      refine ⟨front, back ++ [a], by simp, ?_⟩
      intro other hmem
      rcases List.mem_append.1 hmem with hmem | hmem
      · exact hback other hmem
      · exact ha ⟨other, (List.mem_singleton.1 hmem).symm⟩

/-! ## What time shows -/

/-- **Time shows something** just if a timer comes due. -/
theorem shows_time_iff (h : t.Awaits w) (ms : Nat) :
    (t.elapse ms).snapshot ≠ t.snapshot ↔
      ∃ timer, w = some timer ∧ timer.deadline ≤ t.now + ms := by
  constructor
  · exact exists_due_of_snapshot_ne h
  · rintro ⟨timer, rfl, hdue⟩
    rw [snapshot_elapse_of_due h hdue]
    exact close_bump_ne t.snapshot

/-- A timer starts only under a policy that asks for it. -/
theorem policy_of_arms {a : Action} (h : t.arms a = some d) : t.policy = .after d := by
  unfold arms at h
  split at h
  · split at h
    · cases h
    · next delay hpolicy =>
      obtain rfl := Option.some.inj h
      exact hpolicy
  · cases h

theorem policyAfter_of_arms {a : Action} (h : t.arms a = some d) :
    policyAfter t.policy a = .after d := by
  rw [← policy_of_arms h]
  cases a with
  | withPolicy policy => cases h
  | _ => rfl

/-! ## The result -/

/-- The steps of a run start a timer at the end of a task, then leave it alone, and set the display
to be put away by the operator while it runs, for good; and it is due after some more
milliseconds. -/
def Withdraws (start : Tracker) (as : List Action) (ms : Nat) : Prop :=
  ∃ before arm front back d, as = before ++ arm :: (front ++ .withPolicy .manual :: back) ∧
    (start.run before).arms arm = some d ∧
    ((start.run before).step arm).Keeps d (front ++ .withPolicy .manual :: back) ∧
    (∀ policy, .withPolicy policy ∉ back) ∧
    d ≤ waited (front ++ .withPolicy .manual :: back) + ms

/-- **When time puts a display away that is the operator's**: just when it lets a timer come due
that was started before the policy was set. -/
theorem shows_time_manual_iff {start : Tracker} (hstart : start.Awaits none) (as : List Action)
    (ms : Nat) :
    (start.run as).policy = .manual ∧
        ((start.run as).elapse ms).snapshot ≠ (start.run as).snapshot ↔
      start.Withdraws as ms := by
  obtain ⟨w, hw⟩ := hstart.run as
  rw [shows_time_iff hw]
  constructor
  · rintro ⟨hmanual, timer, rfl, hdue⟩
    obtain ⟨before, arm, mid, d, rfl, harms, hd, hkeeps⟩ := exists_arms hstart hw
    obtain ⟨-, -, -, hnow, -, -⟩ := run_of_arms hstart harms hkeeps
    -- the timer has asked another policy than the one that is in force now
    rw [policy_run hstart, List.foldl_append, List.foldl_cons, ← policy_run hstart,
      policyAfter_of_arms harms] at hmanual
    have hother : DismissPolicy.after d ≠ .manual := nofun
    obtain ⟨front, back, rfl, hback⟩ := exists_withPolicy hother hmanual
    refine ⟨before, arm, front, back, d, rfl, harms, hkeeps, hback, ?_⟩
    rw [hd, hnow] at hdue
    omega
  · rintro ⟨before, arm, front, back, d, rfl, harms, hkeeps, hback, hms⟩
    obtain ⟨timer, hd, hawaits, hnow, -, -⟩ := run_of_arms hstart harms hkeeps
    refine ⟨?_, timer, hw.unique hawaits, ?_⟩
    · rw [policy_run hstart, List.foldl_append, List.foldl_cons, List.foldl_append, List.foldl_cons]
      exact foldl_policyAfter_of_fixed hback .manual
    · rw [hd, hnow]
      omega

/-- **The operator's displays stay, or not.**  In a run of a tracker, whatever policies are set in
it and when, time shows nothing while the display is to be put away by the operator, just if no
timer comes due that was started at the end of a task under another policy and left alone since,
while the policy was set to leave the display to the operator.  Whenever it does show something, the
display is put away by a timer. -/
theorem manual_policy_kept_iff (title : String) (canWait : Bool) (as : List Action) :
    let start := new title canWait
    ((∀ before ms behind, as = before ++ .elapse ms :: behind →
        (start.run before).policy = .manual →
        ((start.run before).elapse ms).snapshot = (start.run before).snapshot) ↔
      ∀ before ms behind, as = before ++ .elapse ms :: behind → ¬ start.Withdraws before ms) ∧
    ∀ ms, ((start.run as).elapse ms).snapshot = (start.run as).snapshot ∨
      ∃ k ≤ ms, (start.run as).TimesOutIn k := by
  intro start
  have hstart : start.Awaits none := awaits_new title canWait
  have hiff := shows_time_manual_iff hstart
  refine ⟨⟨?_, ?_⟩, ?_⟩
  · intro h before ms behind has hwithdraws
    obtain ⟨hmanual, hshown⟩ := (hiff before ms).2 hwithdraws
    exact hshown (h before ms behind has hmanual)
  · intro h before ms behind has hmanual
    by_contra hshown
    exact h before ms behind has ((hiff before ms).1 ⟨hmanual, hshown⟩)
  · intro ms
    obtain ⟨w, hw⟩ := hstart.run as
    rw [or_iff_not_imp_left]
    exact exists_timesOutIn hw

/-- A policy that leaves the display to the operator does not stop the timer that runs. -/
theorem dismissed_under_manual :
    ¬ ∀ (title : String) (canWait : Bool) (as : List Action) (ms : Nat),
      ((new title canWait).run as).policy = .manual →
        (((new title canWait).run as).elapse ms).snapshot
          = ((new title canWait).run as).snapshot := by
  intro h
  have hkept := h "T" true
    [.withPolicy (.after 3000), .begin "x" "go", .apply (.new "x" (.zero false) .success "w"),
      .withPolicy .manual] 3000 rfl
  exact absurd (congrArg Snapshot.isOpen hkept) (by decide)

end AssetSearch.Progress.Tracker
