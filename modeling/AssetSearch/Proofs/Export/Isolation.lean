/-
# Whose tracker an event changes

An event of one export changes the tracker of another only if the task on display there has the same
id.  A source never gives an id twice; two sources do, if they take the same stamp for tasks of the
same kind.

Key definitions: `Process.ListensOn`, `Process.Orderly`.  Key statements: `Sound.id_eq_iff`,
`Sound.tracker_publish_ne_iff`, `isolated_iff`, `not_isolated`.
-/
import AssetSearch.Proofs.Export.Process

namespace AssetSearch.Export.Process

open Progress (Board Event Listener)

variable {σ : Type} {p : Process σ}

/-! ## One event -/

/-- A tracker listens to the bus. -/
def ListensOn (p : Process σ) (i : Nat) : Prop :=
  ∃ l ∈ p.site.board.bus.listeners, l.handler = i

/-- The tracker of an export of one platform listens while it runs. -/
theorem Sound.listensOn (h : p.Sound) {y : Job} (hy : y ∈ p.running)
    (hsubscription : y.subscription ≠ none) : p.ListensOn y.tracker := by
  obtain ⟨id, hid⟩ := Option.ne_none_iff_exists'.1 hsubscription
  exact ⟨_, h.attached.listens y hy _ (Job.listener?_of_subscription hid), rfl⟩

/-- Trackers listen to the events of all tasks. -/
theorem Sound.recipients_eq (h : p.Sound) (e : Event) :
    p.site.board.bus.recipients e = p.site.board.bus.listeners := by
  refine List.filter_eq_self.2 fun l hl => ?_
  rw [Listener.wants, h.attached.unfiltered l hl]

/-- **An event changes a tracker** just if it listens and shows a task with the id of the event. -/
theorem Sound.tracker_publish_ne_iff (h : p.Sound) (e : Event) (i : Nat) :
    (p.step (.publish e)).site.tracker i ≠ p.site.tracker i ↔
      p.ListensOn i ∧ ∃ z, p.shown? i = some z ∧ z.task.id = e.taskId := by
  show (p.site.board.publish e).2.tracker i ≠ p.site.board.tracker i ↔ _
  rw [Board.tracker_publish_ne_iff, h.recipients_eq, h.shows.taskId, Option.map_eq_some_iff]
  rfl

/-- **Two tasks have the same id** just if two sources have given the same stamp for the same
kind. -/
theorem Sound.id_eq_iff (h : p.Sound) {x y : Job} (hx : x ∈ p.opened) (hy : y ∈ p.opened)
    (hne : x ≠ y) :
    x.task.id = y.task.id ↔ x.source ≠ y.source ∧ x.kind = y.kind ∧ x.stamp = y.stamp := by
  have hid : x.task.id = y.task.id ↔ x.kind = y.kind ∧ x.stamp = y.stamp := Task.IdKind.id_inj
  rw [hid]
  constructor
  · rintro ⟨hkind, hstamp⟩
    refine ⟨?_, hkind, hstamp⟩
    intro hsource
    exact hne (h.numbered.eq_of_stamp_eq hx hy hsource hstamp)
  · rintro ⟨-, hsame⟩
    exact hsame

/-- An event of one task on the tracker of another. -/
theorem Sound.tracker_publish_ne_iff_of_ne (h : p.Sound) {x : Job} (hx : x ∈ p.opened) {i : Nat}
    (hi : x.tracker ≠ i) {e : Event} (he : e.taskId = x.task.id) :
    (p.step (.publish e)).site.tracker i ≠ p.site.tracker i ↔
      p.ListensOn i ∧ ∃ z, p.shown? i = some z ∧
        x.source ≠ z.source ∧ x.kind = z.kind ∧ x.stamp = z.stamp := by
  rw [h.tracker_publish_ne_iff, he]
  refine and_congr_right fun _ => exists_congr fun z => and_congr_right fun hz => ?_
  obtain ⟨hmem, htracker⟩ := mem_of_lastOn hz
  have hne : x ≠ z := by
    rintro rfl
    exact hi htracker
  rw [eq_comm, h.id_eq_iff hx hmem hne]

/-! ## One task on a tracker at a time -/

/-- The tracker on which a step opens a task. -/
def Action.opensOn : Action → Option Nat
  | .launch _ _ _ _ i => some i
  | .replay _ _ i => some i
  | .search _ _ tracker => tracker
  | _ => none

/-- Callers open no task on a tracker on which an export runs. -/
def Orderly (p : Process σ) : List Action → Prop
  | [] => True
  | a :: as => (∀ y ∈ p.running, a.opensOn ≠ some y.tracker) ∧ (p.step a).Orderly as

/-- Every export that runs is on display. -/
def OnDisplay (p : Process σ) : Prop :=
  ∀ y ∈ p.running, p.shown? y.tracker = some y

namespace OnDisplay

theorem launch (h : p.OnDisplay) {source : Nat} {kind : Task.IdKind} {scope : ExportScope}
    {platform : Platform} {r : ExportRequest} {i : Nat} (hi : ∀ y ∈ p.running, i ≠ y.tracker) :
    (p.launch source kind scope platform r i).OnDisplay := by
  intro y hy
  have htracker : (p.newExport source kind scope platform r i).tracker = i := by
    unfold newExport
    split <;> rfl
  rcases List.mem_cons.1 hy with rfl | hy
  · exact lastOn_cons_self _ _
  · refine (lastOn_cons_of_ne ?_ _).trans (h y hy)
    rw [htracker]
    exact hi y hy

theorem search (h : p.OnDisplay) {source : Nat} {r : SearchRequest} {tracker : Option Nat}
    (hi : ∀ y ∈ p.running, tracker ≠ some y.tracker) : (p.search source r tracker).OnDisplay := by
  intro y hy
  cases tracker with
  | none => exact h y hy
  | some i =>
    refine (lastOn_cons_of_ne ?_ _).trans (h y hy)
    rintro rfl
    exact hi y hy rfl

/-- Ends of exports. -/
theorem filter (h : p.OnDisplay) {p' : Process σ} {x : Job} (hopened : p'.opened = p.opened)
    (hrunning : p'.running = p.running.filter fun y => y ≠ x) : p'.OnDisplay := by
  intro y hy
  rw [hrunning] at hy
  rw [shown?, hopened]
  exact h y (List.mem_filter.1 hy).1

theorem step (h : p.OnDisplay) {a : Action} (ha : ∀ y ∈ p.running, a.opensOn ≠ some y.tracker) :
    (p.step a).OnDisplay := by
  cases a with
  | launch source scope platform r i =>
    have hi : ∀ y ∈ p.running, i ≠ y.tracker := fun y hy hsame => ha y hy (congrArg some hsame)
    rw [Process.step]
    split
    · exact h
    · split
      · exact h.launch hi
      · exact h
  | replay source record i =>
    have hi : ∀ y ∈ p.running, i ≠ y.tracker := fun y hy hsame => ha y hy (congrArg some hsame)
    rw [Process.step]
    split
    · exact h
    · split
      · exact h.launch hi
      · exact h
  | search source r tracker =>
    rw [Process.step]
    split
    · exact h.search ha
    · exact h
  | operate i a =>
    rw [Process.step]
    split <;> exact h
  | detach id =>
    rw [Process.step]
    split <;> exact h
  | finish x outcome =>
    rw [Process.step]
    split
    · exact h.filter rfl rfl
    · exact h
  | drop x =>
    rw [Process.step]
    split
    · exact h.filter rfl rfl
    · exact h
  | _ => exact h

theorem run (h : p.OnDisplay) {as : List Action} (has : p.Orderly as) : (p.run as).OnDisplay := by
  induction as generalizing p with
  | nil => exact h
  | cons a as ih => exact ih (h.step has.1) has.2

end OnDisplay

/-! ## Isolation -/

/-- **Whose tracker the events of an export change**, in every run of a process.  Two tasks have the
same id just if two coordinators have taken the same stamp for the same kind of task.  An event of
an export that runs changes the tracker of another export just if that tracker listens, as it does
for every export of one platform, and the task on display there has such an id.  If callers keep to
one task per tracker, the task on display is the other export itself. -/
theorem isolated_iff (backend : σ) (reading : Int) (as : List Action) :
    let p := (empty backend reading).run as
    (∀ x ∈ p.opened, ∀ y ∈ p.opened, x ≠ y →
      (x.task.id = y.task.id ↔ x.source ≠ y.source ∧ x.kind = y.kind ∧ x.stamp = y.stamp)) ∧
    (∀ y ∈ p.running, y.subscription ≠ none → p.ListensOn y.tracker) ∧
    (∀ x ∈ p.running, ∀ y ∈ p.running, x.tracker ≠ y.tracker → ∀ e : Event, e.taskId = x.task.id →
      ((p.step (.publish e)).site.tracker y.tracker ≠ p.site.tracker y.tracker ↔
        p.ListensOn y.tracker ∧ ∃ z, p.shown? y.tracker = some z ∧
          x.source ≠ z.source ∧ x.kind = z.kind ∧ x.stamp = z.stamp)) ∧
    ((empty backend reading).Orderly as →
      ∀ x ∈ p.running, ∀ y ∈ p.running, x ≠ y → ∀ e : Event, e.taskId = x.task.id →
        ((p.step (.publish e)).site.tracker y.tracker ≠ p.site.tracker y.tracker ↔
          p.ListensOn y.tracker ∧ x.source ≠ y.source ∧ x.kind = y.kind ∧ x.stamp = y.stamp)) := by
  intro p
  have hsound : p.Sound := (sound_empty backend reading).run as
  refine ⟨?_, ?_, ?_, ?_⟩
  · intro x hx y hy hne
    exact hsound.id_eq_iff hx hy hne
  · intro y hy hsubscription
    exact hsound.listensOn hy hsubscription
  · intro x hx y _ htrackers e he
    exact hsound.tracker_publish_ne_iff_of_ne (hsound.running_subset hx) htrackers he
  · intro horderly x hx y hy hne e he
    have hdisplay : p.OnDisplay := OnDisplay.run (p := empty backend reading) nofun horderly
    have htrackers : x.tracker ≠ y.tracker := by
      intro hsame
      have hshown := hdisplay x hx
      rw [hsame, hdisplay y hy] at hshown
      exact hne (Option.some.inj hshown).symm
    rw [hsound.tracker_publish_ne_iff_of_ne (hsound.running_subset hx) htrackers he]
    -- the task on display is the other export
    simp [hdisplay y hy]

/-- Two coordinators start an export each, while the clock shows the same time. -/
def sameMillisecond : List Action :=
  [.addTracker "A" true, .addTracker "B" true, .addCoordinator, .addCoordinator,
    .launch 0 .current .fofa (.new "a" 1 10) 0, .launch 1 .current .fofa (.new "b" 1 10) 1]

/-- **The exports of two coordinators are not isolated**: both have the id `export_1000`, and the
event of one moves the tracker of the other, too. -/
theorem not_isolated :
    ¬ ∀ (reading : Int) (as : List Action), let p := (empty () reading).run as
      ∀ x ∈ p.running, ∀ y ∈ p.running, x.tracker ≠ y.tracker → ∀ e : Event, e.taskId = x.task.id →
        (p.step (.publish e)).site.tracker y.tracker = p.site.tracker y.tracker := by
  intro h
  have hsame := h 1000 sameMillisecond ⟨0, .exporting, 1000, some .fofa, "a", 0, some 0⟩ (by decide)
    ⟨1, .exporting, 1000, some .fofa, "b", 1, some 1⟩ (by decide) (by decide)
    (.new "export_1000" (.ofWord 30) .running "Page 3 of 10") (by decide +kernel)
  have hrevision := congrArg (fun t => t.snapshot.revision) hsame
  exact absurd hrevision (by decide +kernel)

end AssetSearch.Export.Process
