/-
# What observers of a tracker see

An observer holds the display of a tracker as it was sent last.  Every change of the display is sent
with a new revision, except for one: whether a running task may be cancelled is set silently, and
the observers hear of it with the next revision only.  So what they hold is true just if the
settings made since the current revision was reached have come back to the one of that moment.

Key definitions: `Tracker.Announces`, `Tracker.Reaches`, `Tracker.lastSetting`.  Key statements:
`step_cases`, `exists_reaches`, `watched_eq_snapshot_iff`.
-/
import Mathlib.Data.List.Induction
import AssetSearch.Proofs.Progress.Timers

namespace AssetSearch.Progress.Tracker

variable {t t' t'' : Tracker}

/-! ## Changes that are sent -/

/-- From one tracker to another the display was sent with a new revision. -/
structure Announces (t t' : Tracker) : Prop where
  revision_lt : t.snapshot.revision < t'.snapshot.revision
  sent : t'.updates.value = t'.snapshot

theorem Announces.trans (h : t.Announces t') (h' : t'.Announces t'') : t.Announces t'' :=
  ⟨Nat.lt_trans h.revision_lt h'.revision_lt, h'.sent⟩

/-- A change of the display is sent; what happens to the timers before does not matter. -/
theorem announces_change (hsame : t'.snapshot = t.snapshot) (f : Snapshot → Snapshot)
    (hf : (f t.snapshot).revision = t.snapshot.revision) : t.Announces (t'.change f) := by
  refine ⟨?_, rfl⟩
  rw [snapshot_change, hsame]
  show t.snapshot.revision < (f t.snapshot).revision + 1
  rw [hf]
  exact Nat.lt_succ_self _

theorem announces_dismiss (t : Tracker) : t.Announces t.dismiss :=
  announces_change (snapshot_giveUp t) Snapshot.close rfl

theorem revision_fail (s : Snapshot) (message : String) :
    (s.fail message).revision = s.revision := by
  unfold Snapshot.fail
  dsimp only
  split <;> rfl

/-- A timer that comes due puts the display away, and this is sent. -/
theorem fire_cases (t : Tracker) (timer : Timer) :
    t.Announces (t.fire timer) ∨ t.fire timer = t := by
  unfold fire
  split
  · let rest : Tracker :=
      { t with timers := t.timers.filter fun other => other.token ≠ timer.token }
    have hrest := announces_dismiss rest
    exact .inl ⟨hrest.revision_lt, hrest.sent⟩
  · exact .inr rfl

theorem foldl_fire_cases (due : List Timer) (t : Tracker) :
    t.Announces (due.foldl fire t) ∨ due.foldl fire t = t := by
  induction due generalizing t with
  | nil => exact .inr rfl
  | cons timer due ih =>
    rw [List.foldl_cons]
    rcases fire_cases t timer with hfire | hfire
    · rcases ih (t.fire timer) with hrest | hrest
      · exact .inl (hfire.trans hrest)
      · rw [hrest]
        exact .inl hfire
    · rw [hfire]
      exact ih t

/-! ## One step -/

/-- What a step sets about cancelling. -/
def Action.setting? : Action → Option Bool
  | .withCancel cancellable => some cancellable
  | _ => none

/-- The display stays as it is, apart from what a step sets about cancelling, and nothing is
sent. -/
def Conceals (t t' : Tracker) (a : Action) : Prop :=
  t'.updates = t.updates ∧
    t'.snapshot = { t.snapshot with cancellable := a.setting?.getD t.snapshot.cancellable }

/-- **What a step shows to the observers**: the display, with a new revision, or nothing; in the
latter case the display stays the same unless the step sets whether the task may be cancelled. -/
theorem step_cases (t : Tracker) (a : Action) :
    t.Announces (t.step a) ∨ t.Conceals (t.step a) a := by
  cases a with
  | withPolicy policy => exact .inr ⟨rfl, rfl⟩
  | withCancel cancellable => exact .inr ⟨rfl, rfl⟩
  | begin taskId statusText =>
    exact .inl (announces_change (snapshot_giveUp t) (fun s => s.begin taskId statusText) rfl)
  | log message severity =>
    exact .inl (announces_change rfl (fun s => s.append ⟨message, severity⟩) rfl)
  | apply e =>
    exact .inl (announces_change (snapshot_scheduleIf t _) (fun s => s.apply e) rfl)
  | setProgress percent statusText =>
    exact .inl (announces_change rfl (fun s => s.setProgress percent statusText) rfl)
  | finish status percent statusText line =>
    exact .inl (announces_change (snapshot_scheduleIf t _)
      (fun s => s.finish status percent statusText line) rfl)
  | fail message =>
    exact .inl (announces_change (snapshot_scheduleIf t _) (fun s => s.fail message)
      (revision_fail t.snapshot message))
  | close =>
    show t.Announces t.close.2 ∨ t.Conceals t.close.2 .close
    unfold close
    split
    · exact .inl (announces_dismiss t)
    · exact .inr ⟨rfl, rfl⟩
  | elapse ms =>
    -- time itself shows nothing, but the timers that come due do
    let later : Tracker := { t with now := t.now + ms }
    rcases foldl_fire_cases (later.timers.filter fun timer => timer.deadline ≤ later.now) later with
      hfires | hquiet
    · exact .inl ⟨hfires.revision_lt, hfires.sent⟩
    · refine .inr ?_
      show t.Conceals (List.foldl fire later _) (.elapse ms)
      rw [hquiet]
      exact ⟨rfl, rfl⟩

/-- A change of the display that raises no revision is a new setting about cancelling. -/
theorem changes_silently_iff (t : Tracker) (a : Action) :
    (t.step a).snapshot ≠ t.snapshot ∧ ¬ t.snapshot.revision < (t.step a).snapshot.revision ↔
      ∃ c, a = .withCancel c ∧ c ≠ t.snapshot.cancellable := by
  constructor
  · rintro ⟨hne, hrevision⟩
    rcases step_cases t a with hannounces | ⟨-, hsnapshot⟩
    · exact absurd hannounces.revision_lt hrevision
    · rw [hsnapshot] at hne
      cases a with
      | withCancel c =>
        refine ⟨c, rfl, fun hc => hne ?_⟩
        rw [hc]
        rfl
      | _ => exact absurd rfl hne
  · rintro ⟨c, rfl, hc⟩
    refine ⟨fun hsame => hc (congrArg Snapshot.cancellable hsame), Nat.lt_irrefl _⟩

/-! ## Runs -/

/-- The last setting about cancelling among some steps. -/
def lastSetting (as : List Action) : Option Bool :=
  (as.filterMap Action.setting?).getLast?

theorem lastSetting_concat (as : List Action) (a : Action) (c : Bool) :
    (lastSetting (as ++ [a])).getD c = a.setting?.getD ((lastSetting as).getD c) := by
  unfold lastSetting
  rw [List.filterMap_append]
  cases ha : a.setting? <;> simp [ha]

/-- The last of the steps `before`, if there is one, has reached a new revision, and this is still
the current one after the steps `after`. -/
structure Reaches (start : Tracker) (before after : List Action) : Prop where
  first : ∀ init a, before = init ++ [a] →
    (start.run init).snapshot.revision < (start.run before).snapshot.revision
  current : (start.run (before ++ after)).snapshot.revision = (start.run before).snapshot.revision

/-- **What observers hold** is the display as it was when its current revision was reached; since
then at most the setting about cancelling has changed. -/
theorem exists_reaches {start : Tracker} (hstart : start.updates.value = start.snapshot)
    (as : List Action) :
    ∃ before after, as = before ++ after ∧ start.Reaches before after ∧
      (start.run as).updates.value = (start.run before).snapshot ∧
      (start.run as).snapshot = { (start.run before).snapshot with
        cancellable := (lastSetting after).getD (start.run before).snapshot.cancellable } := by
  induction as using List.reverseRecOn with
  | nil =>
    refine ⟨[], [], rfl, ⟨?_, rfl⟩, hstart, rfl⟩
    intro init a h
    exact absurd h.symm (List.append_ne_nil_of_right_ne_nil init (List.cons_ne_nil a []))
  | append_singleton as a ih =>
    have hrun : start.run (as ++ [a]) = (start.run as).step a := run_append start as [a]
    rcases step_cases (start.run as) a with hannounces | ⟨hupdates, hsnapshot⟩
    · -- a new revision is reached here
      refine ⟨as ++ [a], [], (List.append_nil _).symm, ⟨?_, by rw [List.append_nil]⟩, ?_, rfl⟩
      · intro init b h
        obtain ⟨rfl, -⟩ := List.append_inj' h rfl
        rw [hrun]
        exact hannounces.revision_lt
      · rw [hrun]
        exact hannounces.sent
    · obtain ⟨before, after, rfl, hreaches, hheld, hshown⟩ := ih
      refine ⟨before, after ++ [a], List.append_assoc before after [a],
        ⟨hreaches.first, ?_⟩, ?_, ?_⟩
      · rw [← List.append_assoc, hrun, hsnapshot]
        exact hreaches.current
      · rw [hrun, hupdates]
        exact hheld
      · rw [hrun, hsnapshot, hshown, lastSetting_concat]

/-- **Observers see the truth, or not.**  After every run of a tracker, whatever happened in it,
what the observers hold is the display of the current revision, up to the setting about cancelling;
it is the display itself just if the settings made since that revision was reached have left this
one as it was.  And a step that changes the display raises its revision, unless it sets whether the
task may be cancelled. -/
theorem watched_eq_snapshot_iff (title : String) (canWait : Bool) (as : List Action) :
    let start := new title canWait
    let t := start.run as
    (∃ before after, as = before ++ after ∧ start.Reaches before after ∧
      t.updates.value
        = { t.snapshot with cancellable := (start.run before).snapshot.cancellable } ∧
      (t.updates.value = t.snapshot ↔
        ∀ c, lastSetting after = some c → c = (start.run before).snapshot.cancellable)) ∧
    ∀ a, (t.step a).snapshot ≠ t.snapshot ∧ ¬ t.snapshot.revision < (t.step a).snapshot.revision ↔
      ∃ c, a = .withCancel c ∧ c ≠ t.snapshot.cancellable := by
  intro start t
  refine ⟨?_, changes_silently_iff t⟩
  have hstart : start.updates.value = start.snapshot := rfl
  obtain ⟨before, after, has, hreaches, hheld, hshown⟩ := exists_reaches hstart as
  have hheld' : t.updates.value
      = { t.snapshot with cancellable := (start.run before).snapshot.cancellable } := by
    show (start.run as).updates.value
      = { (start.run as).snapshot with cancellable := (start.run before).snapshot.cancellable }
    rw [hheld, hshown]
  refine ⟨before, after, has, hreaches, hheld', ?_⟩
  constructor
  · intro htrue c hc
    have hsetting := congrArg Snapshot.cancellable (hheld.symm.trans (htrue.trans hshown))
    rw [hc] at hsetting
    exact hsetting.symm
  · intro hsame
    show (start.run as).updates.value = (start.run as).snapshot
    rw [hheld, hshown]
    cases hlast : lastSetting after with
    | none => rfl
    | some c =>
      rw [Option.getD_some, hsame c hlast]

/-- A setting about cancelling leaves the observers with what is no longer true. -/
theorem watched_stale :
    ¬ ∀ (title : String) (canWait : Bool) (as : List Action),
      let t := (new title canWait).run as
      t.updates.value = t.snapshot ∧
        ∀ a, (t.step a).snapshot ≠ t.snapshot →
          t.snapshot.revision < (t.step a).snapshot.revision := by
  intro h
  have htrue := (h "Export" true [.withCancel true]).1
  exact absurd (congrArg Snapshot.cancellable htrue) (by decide)

end AssetSearch.Progress.Tracker
