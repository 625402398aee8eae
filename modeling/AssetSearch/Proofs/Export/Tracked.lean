/-
# What a tracked export shows

The export of one platform hands on the outcome of the backend, and its display is a function of the
display before, of the events of its own task, and of the failure, if there is one.

Key definitions: `Export.display`.  Key statement: `Export.tracked_export`.
-/
import AssetSearch.Export.Run
import AssetSearch.Proofs.Progress.Boards

namespace AssetSearch.Export

open Progress

variable {σ : Type}

/-- The first line of the log of an export. -/
def startLine (scope : ExportScope) (platform : Platform) (r : ExportRequest) : LogLine :=
  ⟨s!"Export started: scope={scope.label}, platform={platform.displayName}, pages={r.pages}", .info⟩

/-- What the display of an export shows in the end: the last of its own events, with the counters of
the last that had any and the log lines of all; a failure is logged, and becomes the status unless
the export has ended by itself. -/
def display (before : Snapshot) (taskId : String) (start : LogLine) (own : List Event)
    (failure : Option String) : Snapshot :=
  let status := (own.getLast?.map Event.status).getD .running
  let statusText := (own.getLast?.map Event.statusText).getD "Preparing export..."
  let overruled := failure.isSome && !status.isTerminal
  { isOpen := true
    title := before.title
    taskId := some taskId
    status := if overruled then .error else status
    percent := (own.getLast?.map Event.percent).getD (.zero false)
    statusText := if overruled then "Failed: " ++ failure.getD "" else statusText
    logs := start :: own.filterMap Event.logLine? ++
      failure.toList.map fun message => ⟨"Failed: " ++ message, .error⟩
    summary := ((own.filter Event.hasCounters).getLast?.map Event.summary).getD []
    cancellable := before.cancellable
    revision := before.revision + 2 + own.length + failure.toList.length }

/-- The failure of a rejected command, as it is shown. -/
def failure? {α : Type} : Outcome α → Option String
  | .ok _ => none
  | .error e => some e.userMessage

/-! ## The three parts of an export -/

/-- The display once the export is announced. -/
theorem snapshot_announce (taskId : String) (scope : ExportScope) (platform : Platform)
    (r : ExportRequest) (t : Tracker) :
    (announce taskId scope platform r t).snapshot
      = ((t.snapshot.begin taskId "Preparing export...").bump.append
          (startLine scope platform r)).bump := by
  rw [announce, Tracker.snapshot_log, Tracker.snapshot_begin]
  rfl

/-- The display after the events of the export. -/
theorem takeAll_announced (before : Snapshot) (taskId : String) (line : LogLine)
    (own : List Event) :
    (((before.begin taskId "Preparing export...").bump.append line).bump).takeAll own
      = display before taskId line own none := by
  rw [Snapshot.takeAll_eq]
  simp [display, Snapshot.begin, Snapshot.bump, Snapshot.append]

/-- The display after a failure, or without one. -/
theorem snapshot_showFailure {α : Type} (outcome : Outcome α) {t : Tracker} {before : Snapshot}
    {taskId : String} {line : LogLine} {own : List Event}
    (h : t.snapshot = display before taskId line own none) :
    (showFailure outcome t).snapshot = display before taskId line own (failure? outcome) := by
  cases outcome with
  | ok a => exact h
  | error e =>
    show (t.fail e.userMessage).2.snapshot = _
    rw [Tracker.snapshot_fail, h]
    by_cases hended : ((own.getLast?.map Event.status).getD .running).isTerminal = true
    · simp [display, failure?, Snapshot.fail, Snapshot.failureText, Snapshot.append, Snapshot.bump,
        hended]
    · simp [display, failure?, Snapshot.fail, Snapshot.failureText, Snapshot.append, Snapshot.bump,
        hended]

section

variable {task : Task} {scope : ExportScope} {platform : Platform} {r : ExportRequest} {i : Nat}
  {s : Site σ}

/-- A tracker that is attached nowhere else listens once the export has started. -/
theorem listens_start (hi : i < s.board.trackers.length)
    (hdetached : ∀ l ∈ s.board.bus.listeners, l.handler ≠ i) :
    (start task scope platform r i s).2.board.Listens i := by
  refine Board.listens_attach ?_ hdetached
  rw [Site.update, Board.length_update]
  exact hi

theorem tracker_start (hi : i < s.board.trackers.length) :
    (start task scope platform r i s).2.board.tracker i
      = announce task.id scope platform r (s.tracker i) :=
  Board.tracker_update_self hi _

/-- In the end the tracker has shown the failure. -/
theorem tracker_finishPlatform (outcome : Outcome String) (subscription : Nat)
    (hi : i < s.board.trackers.length) :
    (finishPlatform task i subscription outcome s).2.tracker i
      = showFailure outcome (s.tracker i) :=
  Board.tracker_update_self (b := s.board.dispose subscription) hi _

/-- The display after the events of a call, with pauses between them that no timer of the tracker
waits for, and after its outcome. -/
theorem snapshot_after (hi : i < s.board.trackers.length)
    (hdetached : ∀ l ∈ s.board.bus.listeners, l.handler ≠ i) {hs : List Board.Happening}
    (hquiet : (start task scope platform r i s).2.board.Undisturbed i hs) {s' : Site σ}
    (hboard : s'.board = (start task scope platform r i s).2.board.passAll hs)
    (outcome : Outcome String) (subscription : Nat) :
    ((finishPlatform task i subscription outcome s').2.tracker i).snapshot
      = display (s.tracker i).snapshot task.id (startLine scope platform r)
          ((hs.filterMap Board.Happening.event?).filter fun e => e.taskId = task.id)
          (failure? outcome) := by
  have hlistens : (start task scope platform r i s).2.board.Listens i := listens_start hi hdetached
  have hshown := hlistens.snapshot_passAll hquiet
  rw [tracker_start hi, snapshot_announce, Board.foldl_offerTo rfl, takeAll_announced,
    ← hboard] at hshown
  have hi' : i < s'.board.trackers.length := by
    rw [hboard]
    exact (hlistens.passAll hs).exists_tracker
  rw [tracker_finishPlatform outcome subscription hi']
  exact snapshot_showFailure outcome hshown

/-- An export of one platform is started, carried out by the backend, and ended. -/
theorem runTask_eq (b : Backend σ) (hscope : scope ≠ .all) :
    runTask b task scope platform r i s =
      finishPlatform task i (start task scope platform r i s).1
        ((start task scope platform r i s).2.invoke b (.exportPlatform task.id platform r)).1
        ((start task scope platform r i s).2.invoke b (.exportPlatform task.id platform r)).2 := by
  cases scope with
  | all => exact absurd rfl hscope
  | _ => rfl

end

/-! ## The whole export -/

/-- The task of an export. -/
def taskOf (source : Nat) (platform : Platform) (r : ExportRequest) (s : Site σ) : Task :=
  ⟨Task.exportId (s.nextStamp source).1, .exporting, some platform, r.query⟩

theorem run_eq (b : Backend σ) (source : Nat) {scope : ExportScope} (platform : Platform)
    {r : ExportRequest} (i : Nat) (s : Site σ) (hcheck : r.check = .ok ()) (hscope : scope ≠ .all) :
    run b source scope platform r i s =
      runTask b (taskOf source platform r s) scope platform r i (s.nextStamp source).2 := by
  rw [run, hcheck]
  dsimp only
  rw [if_neg hscope]
  rfl

/-- **A tracked export, end to end.**  For every request that passes its checks and a tracker that
is attached nowhere else, the export of one platform returns what the backend returns; its display
is that of `Export.display`; the tracker as a whole is the one that has taken over the events of the
task, one after the other, and then shown the failure, so the events of other tasks change nothing;
and time that passes during the call does not matter to the display as long as no timer of the
tracker is due. -/
theorem tracked_export (b : Backend σ) (source : Nat) (scope : ExportScope) (platform : Platform)
    (r : ExportRequest) (i : Nat) (s : Site σ) (hcheck : r.check = .ok ()) (hscope : scope ≠ .all)
    (hi : i < s.board.trackers.length) (hdetached : ∀ l ∈ s.board.bus.listeners, l.handler ≠ i) :
    let task := taskOf source platform r s
    let answer := (b (.exportPlatform task.id platform r) s.backend).1
    let outcome : Outcome String := answer.outcome
    let own := answer.events.filter fun e => e.taskId = task.id
    let started := start task scope platform r i (s.nextStamp source).2
    let result := run b source scope platform r i s
    let shown := display (s.tracker i).snapshot task.id (startLine scope platform r) own
      (failure? outcome)
    result.1 = outcome.map (fun path => ⟨task, some path⟩) ∧
    (result.2.tracker i).snapshot = shown ∧
    result.2.tracker i = showFailure outcome
      (own.foldl Tracker.apply (announce task.id scope platform r (s.tracker i))) ∧
    ∀ (hs : List Board.Happening) (s' : Site σ),
      hs.filterMap Board.Happening.event? = answer.events →
      started.2.board.Undisturbed i hs → s'.board = started.2.board.passAll hs →
      (finishPlatform task i started.1 outcome s').1 = result.1 ∧
        ((finishPlatform task i started.1 outcome s').2.tracker i).snapshot = shown := by
  intro task answer outcome own started result shown
  let called : Site σ := (started.2.invoke b (.exportPlatform task.id platform r)).2
  have hresult : result = finishPlatform task i started.1 outcome called :=
    (run_eq b source platform i s hcheck hscope).trans (runTask_eq b hscope)
  -- in the export itself no time passes between the events
  have hboard : called.board = started.2.board.passAll (answer.events.map .published) :=
    (Board.passAll_published started.2.board answer.events).symm
  have hevents : (answer.events.map Board.Happening.published).filterMap Board.Happening.event?
      = answer.events := by
    rw [List.filterMap_map]
    exact List.filterMap_some
  have hlistens : started.2.board.Listens i :=
    listens_start (s := (s.nextStamp source).2) hi hdetached
  have hshown : ∀ (hs : List Board.Happening) (s' : Site σ),
      hs.filterMap Board.Happening.event? = answer.events →
      started.2.board.Undisturbed i hs → s'.board = started.2.board.passAll hs →
      ((finishPlatform task i started.1 outcome s').2.tracker i).snapshot = shown := by
    intro hs s' hsame hquiet hboard'
    have hsnapshot := snapshot_after (s := (s.nextStamp source).2) hi hdetached hquiet hboard'
      outcome started.1
    rw [hsame] at hsnapshot
    exact hsnapshot
  refine ⟨?_, ?_, ?_, ?_⟩
  · rw [hresult]
    rfl
  · rw [hresult]
    exact hshown _ called hevents (Board.undisturbed_published _ i _) hboard
  · have htracker : started.2.board.tracker i = announce task.id scope platform r (s.tracker i) :=
      tracker_start (s := (s.nextStamp source).2) hi
    have hi' : i < called.board.trackers.length := by
      rw [hboard]
      exact (hlistens.passAll _).exists_tracker
    have hcalled : called.tracker i
        = own.foldl Tracker.apply (announce task.id scope platform r (s.tracker i)) := by
      show called.board.tracker i = _
      rw [hboard, Board.passAll_published, hlistens.tracker_publishAll, htracker,
        Board.foldl_offer (k := task.id) rfl]
    rw [hresult, tracker_finishPlatform outcome started.1 hi', hcalled]
  · intro hs s' hsame hquiet hboard'
    refine ⟨?_, hshown hs s' hsame hquiet hboard'⟩
    rw [hresult]
    rfl

/-- A backend that reports on an export, and on another task meanwhile, and then rejects the
command. -/
def rejecting : Backend Unit
  | .exportPlatform taskId _ _, _ =>
    (⟨[(Event.new taskId (.ofWord 30) .running "working").withResults (some 7) none,
      Event.new "other" (.ofWord 90) .success "done"], .error .zeroPages⟩, ())
  | _, _ => (⟨[], .error .zeroPages⟩, ())

theorem tracked_export_rejecting :
    let s : Site Unit := ⟨(), .new [.new "Export" true], [0], 5, []⟩
    let result := run rejecting 0 .current .fofa (.new "a" 1 10) 0 s
    result.1 = .error .zeroPages ∧
    (result.2.tracker 0).snapshot =
      { isOpen := true
        title := "Export"
        taskId := some "export_5"
        status := .error
        percent := .ofWord 30
        statusText := "Failed: Refusing to start a zero-page export"
        logs := [⟨"Export started: scope=current, platform=FOFA, pages=1", .info⟩,
          ⟨"Failed: Refusing to start a zero-page export", .error⟩]
        summary := [⟨.totalResults, 7⟩]
        cancellable := false
        revision := 4 } := by
  intro s result
  have h := tracked_export rejecting 0 .current .fofa (.new "a" 1 10) 0 s rfl (by decide)
    (by decide) (by decide)
  exact ⟨h.1.trans rfl, h.2.1.trans (by decide +kernel)⟩

end AssetSearch.Export
