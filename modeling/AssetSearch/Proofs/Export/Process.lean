/-
# Exports side by side

Any number of coordinators share the trackers, the bus and the clock of a process; each has a source
of task ids of its own.  Exports of the same or of different coordinators run at the same time,
among searches, events, pauses and everything else that callers do to trackers.  Three things hold
all the time: the stamps of a source grow, a tracker shows the task that was opened on it last, and
the tracker of every export that runs on one platform listens to the bus.

Key definitions: `Job`, `Process`, `Process.step`, `Numbered`, `Shows`, `Attached`, `Process.Sound`.
Key statements: `Process.Sound.run`, `Process.board_run`, `Process.board_replay`,
`Process.board_search`.
-/
import Mathlib.Data.List.Pairwise
import AssetSearch.Proofs.Export.Tracked
import AssetSearch.Proofs.Task.Ids
import AssetSearch.Search

namespace AssetSearch.Export

open Progress (Board Bus Event Listener Tracker)

variable {σ : Type}

/-! ## The process -/

/-- A task on a tracker. -/
structure Job where
  /-- The source of its id. -/
  source : Nat
  kind : Task.IdKind
  stamp : Nat
  platform : Option Platform
  query : String
  tracker : Nat
  /-- The subscription of the tracker, if it listens to the bus for this task. -/
  subscription : Option Nat
  deriving DecidableEq

namespace Job

def task (x : Job) : Task :=
  ⟨x.kind.id x.stamp, x.kind.taskKind, x.platform, x.query⟩

/-- The listener of the task on the bus. -/
def listener? (x : Job) : Option (Listener Nat) :=
  x.subscription.map fun id => ⟨id, none, x.tracker⟩

end Job

/-- The task that was opened on a tracker last, if the tasks are listed from the last one on. -/
def lastOn (opened : List Job) (i : Nat) : Option Job :=
  opened.find? fun x => x.tracker = i

/-- A process: what its operations share, the tasks that were opened on trackers, the last one
first, and the exports that run. -/
structure Process (σ : Type) where
  site : Site σ
  opened : List Job
  running : List Job

namespace Process

/-- A process without coordinators and trackers. -/
def empty (backend : σ) (reading : Int) : Process σ :=
  ⟨⟨backend, .new [], [], reading, []⟩, [], []⟩

/-- The task on display. -/
def shown? (p : Process σ) (i : Nat) : Option Job :=
  lastOn p.opened i

/-- Changes the trackers and the bus. -/
def onBoard (p : Process σ) (f : Board → Board) : Process σ :=
  { p with site := { p.site with board := f p.site.board } }

/-- Whether there are a source and a tracker. -/
def Has (p : Process σ) (source i : Nat) : Prop :=
  source < p.site.stamps.length ∧ i < p.site.board.trackers.length

instance (p : Process σ) (source i : Nat) : Decidable (p.Has source i) :=
  inferInstanceAs (Decidable (_ ∧ _))

/-! ## Steps -/

/-- The next task of a source. -/
def newJob (p : Process σ) (source : Nat) (kind : Task.IdKind) (platform : Option Platform)
    (query : String) (i : Nat) (subscription : Option Nat) : Job :=
  ⟨source, kind, (p.site.nextStamp source).1, platform, query, i, subscription⟩

/-- The task of an export; that of all platforms has no platform and does not listen. -/
def newExport (p : Process σ) (source : Nat) (kind : Task.IdKind) (scope : ExportScope)
    (platform : Platform) (r : ExportRequest) (i : Nat) : Job :=
  if scope = .all then p.newJob source kind none r.query i none
  else p.newJob source kind (some platform) r.query i (some p.site.board.bus.nextId)

/-- Starts an export: it takes the next stamp, is shown, and listens unless it is one of all
platforms. -/
def launch (p : Process σ) (source : Nat) (kind : Task.IdKind) (scope : ExportScope)
    (platform : Platform) (r : ExportRequest) (i : Nat) : Process σ :=
  let x := p.newExport source kind scope platform r i
  let s := (p.site.nextStamp source).2
  { site :=
      if scope = .all then s.update i fun t => announceAll (announce x.task.id .all platform r t)
      else (start x.task scope platform r i s).2
    opened := x :: p.opened
    running := x :: p.running }

/-- Starts a search; it is shown if there is a tracker for it. -/
def search (p : Process σ) (source : Nat) (r : SearchRequest) (tracker : Option Nat) : Process σ :=
  let id := Task.searchId (p.site.nextStamp source).1
  let opened := tracker.toList.map fun i => p.newJob source .search (some r.platform) r.query i none
  { site := Search.onTracker tracker (Search.announce id r) (p.site.nextStamp source).2
    opened := opened ++ p.opened
    running := p.running }

/-- Shows the outcome of an export, whose tracker stops listening. -/
def conclude (x : Job) (outcome : Outcome String) (s : Site σ) : Site σ :=
  match x.subscription with
  | none => s.update x.tracker (concludeAll (outcome.map fun _ => ()))
  | some id => (finishPlatform x.task x.tracker id outcome s).2

/-- Ends an export. -/
def finish (p : Process σ) (x : Job) (outcome : Outcome String) : Process σ :=
  { p with site := conclude x outcome p.site, running := p.running.filter fun y => y ≠ x }

/-- An export is given up by its caller: its tracker stops listening, and nothing is shown. -/
def drop (p : Process σ) (x : Job) : Process σ :=
  { p.onBoard fun b => x.subscription.elim b b.dispose with
    running := p.running.filter fun y => y ≠ x }

/-- What may happen in a process. -/
inductive Action where
  | addCoordinator
  /-- The clock shows another time, later or not. -/
  | clock (reading : Int)
  | addTracker (title : String) (canWait : Bool)
  | launch (source : Nat) (scope : ExportScope) (platform : Platform) (r : ExportRequest) (i : Nat)
  | replay (source : Nat) (record : HistoryRecord) (i : Nat)
  | search (source : Nat) (r : SearchRequest) (tracker : Option Nat)
  | publish (e : Event)
  | elapse (ms : Nat)
  /-- A caller changes a tracker. -/
  | operate (i : Nat) (a : Tracker.Action)
  /-- A caller lets a tracker listen. -/
  | attach (i : Nat)
  /-- A caller ends a subscription of its own. -/
  | detach (id : Nat)
  | finish (x : Job) (outcome : Outcome String)
  | drop (x : Job)

/-- Whether a change of a tracker opens its display for another task. -/
def opensDisplay : Tracker.Action → Bool
  | .begin _ _ => true
  | _ => false

/-- One step.  What lacks its source, its tracker or its export does not happen, nor do requests
that fail their checks; only coordinators open displays. -/
def step (p : Process σ) : Action → Process σ
  | .addCoordinator => { p with site := { p.site with stamps := p.site.stamps ++ [0] } }
  | .clock reading => { p with site := { p.site with clock := reading } }
  | .addTracker title canWait => p.onBoard fun b => b.add (.new title canWait)
  | .launch source scope platform r i =>
    match r.check with
    | .error _ => p
    | .ok () => if p.Has source i then p.launch source .exporting scope platform r i else p
  | .replay source record i =>
    match replayRequest record with
    | .error _ => p
    | .ok (platform, r) =>
      if p.Has source i then p.launch source (.past platform) .platform platform r i else p
  | .search source r tracker =>
    if Text.blank r.query = false ∧ source < p.site.stamps.length ∧
        ∀ i ∈ tracker, i < p.site.board.trackers.length then
      p.search source r tracker
    else p
  | .publish e => p.onBoard fun b => (b.publish e).2
  | .elapse ms => p.onBoard fun b => b.elapse ms
  | .operate i a => if opensDisplay a then p else p.onBoard fun b => b.update i fun t => t.step a
  | .attach i => p.onBoard fun b => (b.attach i).2
  | .detach id =>
    if ∀ x ∈ p.running, x.subscription ≠ some id then p.onBoard fun b => b.dispose id else p
  | .finish x outcome => if x ∈ p.running then p.finish x outcome else p
  | .drop x => if x ∈ p.running then p.drop x else p

/-- The process after some steps. -/
def run (p : Process σ) (as : List Action) : Process σ :=
  as.foldl step p

end Process

/-! ## Numbers -/

/-- The stamps of a source grow from task to task, and the source knows the last one. -/
structure Numbered (stamps : List Nat) (opened : List Job) : Prop where
  stamp_le : ∀ x ∈ opened, x.stamp ≤ stamps.getD x.source 0
  stamp_lt : opened.Pairwise fun x y => x.source = y.source → y.stamp < x.stamp

/-- The stamps after a source has taken its next one. -/
def nextStamps (stamps : List Nat) (source : Nat) (reading : Int) : List Nat :=
  stamps.set source (Stamp.next (stamps.getD source 0) reading)

theorem getD_nextStamps_self {stamps : List Nat} {source : Nat} (h : source < stamps.length)
    (reading : Int) :
    (nextStamps stamps source reading).getD source 0
      = Stamp.next (stamps.getD source 0) reading := by
  simp [nextStamps, List.getD_eq_getElem?_getD, h]

/-- No source falls back. -/
theorem getD_le_nextStamps (stamps : List Nat) (source : Nat) (reading : Int) (s : Nat) :
    stamps.getD s 0 ≤ (nextStamps stamps source reading).getD s 0 := by
  by_cases hs : s = source
  · subst hs
    by_cases h : s < stamps.length
    · rw [getD_nextStamps_self h]
      exact Nat.le_of_lt (Stamp.lt_next _ reading)
    · simp [List.getD_eq_getElem?_getD, h]
  · have hother : (nextStamps stamps source reading)[s]? = stamps[s]? :=
      List.getElem?_set_ne (Ne.symm hs)
    refine Nat.le_of_eq ?_
    rw [List.getD_eq_getElem?_getD, List.getD_eq_getElem?_getD, hother]

namespace Numbered

variable {stamps : List Nat} {opened : List Job}

theorem mono (h : Numbered stamps opened) {stamps' : List Nat}
    (hle : ∀ s, stamps.getD s 0 ≤ stamps'.getD s 0) : Numbered stamps' opened where
  stamp_le := fun x hx => Nat.le_trans (h.stamp_le x hx) (hle x.source)
  stamp_lt := h.stamp_lt

theorem draw (h : Numbered stamps opened) (source : Nat) (reading : Int) :
    Numbered (nextStamps stamps source reading) opened :=
  h.mono (getD_le_nextStamps stamps source reading)

/-- A new source has given no stamp. -/
theorem coordinator (h : Numbered stamps opened) : Numbered (stamps ++ [0]) opened := by
  refine h.mono fun s => ?_
  by_cases hs : s < stamps.length
  · simp [List.getD_eq_getElem?_getD, List.getElem?_append_left hs]
  · simp [List.getD_eq_getElem?_getD, hs]

theorem cons (h : Numbered stamps opened) {x : Job} {reading : Int}
    (hsource : x.source < stamps.length)
    (hstamp : x.stamp = Stamp.next (stamps.getD x.source 0) reading) :
    Numbered (nextStamps stamps x.source reading) (x :: opened) where
  stamp_le := by
    intro y hy
    rcases List.mem_cons.1 hy with rfl | hy
    · exact Nat.le_of_eq (hstamp.trans (getD_nextStamps_self hsource reading).symm)
    · exact (h.draw x.source reading).stamp_le y hy
  stamp_lt := by
    refine List.pairwise_cons.2 ⟨fun y hy hsame => ?_, h.stamp_lt⟩
    have hle := h.stamp_le y hy
    rw [← hsame] at hle
    rw [hstamp]
    exact Nat.lt_of_le_of_lt hle (Stamp.lt_next _ reading)

/-- **A source does not give a stamp twice.** -/
theorem eq_of_stamp_eq (h : Numbered stamps opened) {x y : Job} (hx : x ∈ opened) (hy : y ∈ opened)
    (hsource : x.source = y.source) (hstamp : x.stamp = y.stamp) : x = y := by
  have hdiffer : opened.Pairwise fun x y => x.source = y.source → x.stamp ≠ y.stamp :=
    h.stamp_lt.imp fun hlt hs => Nat.ne_of_gt (hlt hs)
  have hsymm : Std.Symm fun x y : Job => x.source = y.source → x.stamp ≠ y.stamp :=
    ⟨fun _ _ hxy hs => (hxy hs.symm).symm⟩
  by_contra hne
  exact hdiffer.forall hx hy hne hsource hstamp

end Numbered

/-! ## Displays -/

/-- Every tracker shows the task that was opened on it last. -/
structure Shows (b : Board) (opened : List Job) : Prop where
  exists_tracker : ∀ x ∈ opened, x.tracker < b.trackers.length
  taskId : ∀ i, (b.tracker i).snapshot.taskId = (lastOn opened i).map fun x => x.task.id

theorem lastOn_cons_self (x : Job) (opened : List Job) :
    lastOn (x :: opened) x.tracker = some x :=
  List.find?_cons_of_pos (decide_eq_true rfl)

theorem lastOn_cons_of_ne {x : Job} {i : Nat} (h : x.tracker ≠ i) (opened : List Job) :
    lastOn (x :: opened) i = lastOn opened i :=
  List.find?_cons_of_neg (by simpa using h)

theorem mem_of_lastOn {opened : List Job} {x : Job} {i : Nat} (h : lastOn opened i = some x) :
    x ∈ opened ∧ x.tracker = i :=
  ⟨List.mem_of_find?_eq_some h, by simpa using List.find?_some h⟩

namespace Shows

variable {b : Board} {opened : List Job}

/-- Changes that keep every task on display. -/
theorem keep (h : Shows b opened) {b' : Board} (hlength : b.trackers.length ≤ b'.trackers.length)
    (htask : ∀ i, (b'.tracker i).snapshot.taskId = (b.tracker i).snapshot.taskId) :
    Shows b' opened where
  exists_tracker := fun x hx => Nat.lt_of_lt_of_le (h.exists_tracker x hx) hlength
  taskId := fun i => (htask i).trans (h.taskId i)

/-- Changes of the bus. -/
theorem of_trackers (h : Shows b opened) {b' : Board} (hsame : b'.trackers = b.trackers) :
    Shows b' opened := by
  refine h.keep (Nat.le_of_eq (congrArg List.length hsame).symm) fun i => ?_
  rw [Board.tracker, Board.tracker, hsame]

theorem update (h : Shows b opened) {f : Tracker → Tracker}
    (hf : ∀ t : Tracker, (f t).snapshot.taskId = t.snapshot.taskId) (i : Nat) :
    Shows (b.update i f) opened := by
  refine h.keep (Nat.le_of_eq (Board.length_update i f).symm) fun j => ?_
  exact Board.taskId_update hf i

theorem publish (h : Shows b opened) (e : Event) : Shows (b.publish e).2 opened := by
  rw [Board.publish_eq]
  refine h.keep (Nat.le_of_eq (Board.length_callAll b e _).symm) fun i => ?_
  exact Board.taskId_callAll b e _

theorem elapse (h : Shows b opened) (ms : Nat) : Shows (b.elapse ms) opened := by
  have hlength : b.trackers.length = (b.elapse ms).trackers.length := List.length_map .. |>.symm
  refine h.keep (Nat.le_of_eq hlength) fun i => ?_
  by_cases hi : i < b.trackers.length
  · rw [Board.tracker_elapse hi, Tracker.taskId_elapse]
  · have hle := Nat.le_of_not_lt hi
    rw [Board.tracker_of_length_le hle, Board.tracker_of_length_le (hlength ▸ hle)]

/-- A new tracker shows no task, like one that does not exist. -/
theorem add (h : Shows b opened) (title : String) (canWait : Bool) :
    Shows (b.add (.new title canWait)) opened := by
  refine h.keep (by simp [Board.add]) fun i => ?_
  rcases Nat.lt_trichotomy i b.trackers.length with hi | rfl | hi
  · simp [Board.add, Board.tracker, List.getD_eq_getElem?_getD, List.getElem?_append_left hi]
  · rw [Board.tracker_of_length_le (Nat.le_refl _)]
    simp [Board.add, Board.tracker, List.getD_eq_getElem?_getD]
    rfl
  · rw [Board.tracker_of_length_le (Nat.le_of_lt hi), Board.tracker_of_length_le]
    rw [Board.add, List.length_append]
    exact hi

theorem opens (h : Shows b opened) {x : Job} (hx : x.tracker < b.trackers.length)
    {f : Tracker → Tracker} (hf : ∀ t : Tracker, (f t).snapshot.taskId = some x.task.id) :
    Shows (b.update x.tracker f) (x :: opened) where
  exists_tracker := by
    intro y hy
    rw [Board.length_update]
    rcases List.mem_cons.1 hy with rfl | hy
    · exact hx
    · exact h.exists_tracker y hy
  taskId := by
    intro i
    by_cases hi : x.tracker = i
    · subst hi
      rw [Board.tracker_update_self hx, hf, lastOn_cons_self]
      rfl
    · rw [Board.tracker_update_of_ne (Ne.symm hi), lastOn_cons_of_ne hi, h.taskId]

end Shows

/-! ## Listeners -/

/-- The trackers of the exports that run listen to the bus, each with a subscription of its own, to
the events of all tasks. -/
structure Attached (bus : Bus Nat) (running : List Job) : Prop where
  unfiltered : ∀ l ∈ bus.listeners, l.taskFilter = none
  id_lt : ∀ l ∈ bus.listeners, l.id < bus.nextId
  listens : ∀ x ∈ running, ∀ l, x.listener? = some l → l ∈ bus.listeners
  eq_of_subscription : ∀ x ∈ running, ∀ y ∈ running, ∀ id, x.subscription = some id →
    y.subscription = some id → x = y

theorem Job.listener?_of_subscription {x : Job} {id : Nat} (h : x.subscription = some id) :
    x.listener? = some ⟨id, none, x.tracker⟩ := by
  rw [listener?, h]
  rfl

namespace Attached

variable {bus : Bus Nat} {running : List Job}

theorem subscription_lt (h : Attached bus running) {x : Job} (hx : x ∈ running) {id : Nat}
    (hid : x.subscription = some id) : id < bus.nextId :=
  h.id_lt _ (h.listens x hx _ (Job.listener?_of_subscription hid))

/-- Some exports end. -/
theorem restrict (h : Attached bus running) {running' : List Job} (hsubset : running' ⊆ running) :
    Attached bus running' where
  unfiltered := h.unfiltered
  id_lt := h.id_lt
  listens := fun x hx => h.listens x (hsubset hx)
  eq_of_subscription := fun x hx y hy => h.eq_of_subscription x (hsubset hx) y (hsubset hy)

/-- One more tracker listens. -/
theorem attach (h : Attached bus running) (i : Nat) :
    Attached (bus.subscribe none i).2 running where
  unfiltered := by
    intro l hl
    rcases List.mem_append.1 hl with hl | hl
    · exact h.unfiltered l hl
    · rw [List.mem_singleton.1 hl]
  id_lt := by
    intro l hl
    rcases List.mem_append.1 hl with hl | hl
    · exact Nat.lt_succ_of_lt (h.id_lt l hl)
    · rw [List.mem_singleton.1 hl]
      exact Nat.lt_succ_self _
  listens := fun x hx l hl => List.mem_append_left _ (h.listens x hx l hl)
  eq_of_subscription := h.eq_of_subscription

/-- A subscription ends that no export needs. -/
theorem detach (h : Attached bus running) {id : Nat}
    (hid : ∀ x ∈ running, x.subscription ≠ some id) : Attached (bus.dispose id) running where
  unfiltered := fun l hl => h.unfiltered l (List.mem_filter.1 hl).1
  id_lt := fun l hl => h.id_lt l (List.mem_filter.1 hl).1
  listens := by
    intro x hx l hl
    refine List.mem_filter.2 ⟨h.listens x hx l hl, decide_eq_true ?_⟩
    obtain ⟨id', hid', rfl⟩ := Option.map_eq_some_iff.1 hl
    rintro rfl
    exact hid x hx hid'
  eq_of_subscription := h.eq_of_subscription

/-- An export starts whose tracker listens already, if it has to. -/
theorem cons (h : Attached bus running) {x : Job}
    (hlistens : ∀ l, x.listener? = some l → l ∈ bus.listeners)
    (hnew : ∀ y ∈ running, ∀ id, y.subscription = some id → x.subscription ≠ some id) :
    Attached bus (x :: running) where
  unfiltered := h.unfiltered
  id_lt := h.id_lt
  listens := by
    intro y hy
    rcases List.mem_cons.1 hy with rfl | hold
    · exact hlistens
    · exact h.listens y hold
  eq_of_subscription := by
    intro y hy z hz id hyid hzid
    rcases List.mem_cons.1 hy with rfl | hyold
    · rcases List.mem_cons.1 hz with rfl | hzold
      · rfl
      · exact absurd hyid (hnew z hzold id hzid)
    · rcases List.mem_cons.1 hz with rfl | hzold
      · exact absurd hzid (hnew y hyold id hyid)
      · exact h.eq_of_subscription y hyold z hzold id hyid hzid

/-- An export starts that does not listen. -/
theorem quiet (h : Attached bus running) {x : Job} (hx : x.subscription = none) :
    Attached bus (x :: running) := by
  refine h.cons ?_ ?_
  · rw [Job.listener?, hx]
    exact nofun
  · rw [hx]
    exact nofun

/-- An export starts and its tracker starts to listen. -/
theorem subscribe (h : Attached bus running) {x : Job} (hx : x.subscription = some bus.nextId) :
    Attached (bus.subscribe none x.tracker).2 (x :: running) := by
  refine (h.attach x.tracker).cons ?_ ?_
  · intro l hl
    rw [Job.listener?_of_subscription hx] at hl
    obtain rfl := Option.some.inj hl
    exact List.mem_append_right _ (List.mem_singleton.2 rfl)
  · -- the new id is none of the old ones
    intro y hy id hid hsame
    have hlt := h.subscription_lt hy hid
    rw [hx] at hsame
    obtain rfl := Option.some.inj hsame
    exact Nat.lt_irrefl _ hlt

/-- An export ends and its tracker stops listening. -/
theorem dispose (h : Attached bus running) {x : Job} (hx : x ∈ running) {id : Nat}
    (hid : x.subscription = some id) :
    Attached (bus.dispose id) (running.filter fun y => y ≠ x) := by
  refine (h.restrict List.filter_sublist.subset).detach ?_
  intro y hy hyid
  obtain ⟨hmem, hne⟩ := List.mem_filter.1 hy
  exact of_decide_eq_true hne (h.eq_of_subscription y hmem x hx id hyid hid)

end Attached

/-! ## What operations show -/

theorem taskId_announce (taskId : String) (scope : ExportScope) (platform : Platform)
    (r : ExportRequest) (t : Tracker) :
    (announce taskId scope platform r t).snapshot.taskId = some taskId := by
  rw [snapshot_announce]
  rfl

theorem taskId_announceAll (t : Tracker) :
    (announceAll t).snapshot.taskId = t.snapshot.taskId := rfl

theorem taskId_showFailure {α : Type} (outcome : Outcome α) (t : Tracker) :
    (showFailure outcome t).snapshot.taskId = t.snapshot.taskId := by
  cases outcome with
  | ok a => rfl
  | error e => exact t.taskId_step (a := .fail e.userMessage) nofun

theorem taskId_concludeAll (outcome : Outcome Unit) (t : Tracker) :
    (concludeAll outcome t).snapshot.taskId = t.snapshot.taskId := by
  cases outcome with
  | ok a =>
    rw [concludeAll, Tracker.snapshot_finish]
    rfl
  | error e => exact t.taskId_step (a := .fail e.userMessage) nofun

theorem taskId_announceSearch (taskId : String) (r : SearchRequest) (t : Tracker) :
    (Search.announce taskId r t).snapshot.taskId = some taskId := by
  rw [Search.announce, Tracker.snapshot_setProgress, Tracker.snapshot_log,
    Tracker.snapshot_setProgress, Tracker.snapshot_begin]
  rfl

/-! ## Sound processes -/

namespace Process

/-- What holds of a process all the time. -/
structure Sound (p : Process σ) : Prop where
  numbered : Numbered p.site.stamps p.opened
  shows : Shows p.site.board p.opened
  attached : Attached p.site.board.bus p.running
  running_subset : p.running ⊆ p.opened

theorem sound_empty (backend : σ) (reading : Int) : (empty backend reading).Sound where
  numbered := ⟨nofun, .nil⟩
  shows := ⟨nofun, fun _ => rfl⟩
  attached := ⟨nofun, nofun, nofun, nofun⟩
  running_subset := List.Subset.refl _

variable {p : Process σ}

namespace Sound

/-- Changes of the trackers that leave the bus alone and keep the tasks on display. -/
theorem onBoard (h : p.Sound) (f : Board → Board) (hbus : (f p.site.board).bus = p.site.board.bus)
    (hshows : Shows (f p.site.board) p.opened) : (p.onBoard f).Sound where
  numbered := h.numbered
  shows := hshows
  attached := by
    show Attached (f p.site.board).bus p.running
    rw [hbus]
    exact h.attached
  running_subset := h.running_subset

/-- The next task of a source has a stamp of its own. -/
theorem numbered_newJob (h : p.Sound) {source : Nat} (hsource : source < p.site.stamps.length)
    (kind : Task.IdKind) (platform : Option Platform) (query : String) (i : Nat)
    (subscription : Option Nat) :
    Numbered (p.site.nextStamp source).2.stamps
      (p.newJob source kind platform query i subscription :: p.opened) :=
  h.numbered.cons (x := p.newJob source kind platform query i subscription) hsource rfl

theorem launch (h : p.Sound) {source i : Nat} (hhas : p.Has source i) (kind : Task.IdKind)
    (scope : ExportScope) (platform : Platform) (r : ExportRequest) :
    (p.launch source kind scope platform r i).Sound := by
  unfold Process.launch newExport
  by_cases hscope : scope = .all
  · -- an export of all platforms does not listen
    simp only [if_pos hscope]
    refine ⟨h.numbered_newJob hhas.1 .., ?_, h.attached.quiet rfl,
      List.cons_subset_cons _ h.running_subset⟩
    refine h.shows.opens (x := p.newJob source kind none r.query i none) hhas.2 fun t => ?_
    exact (taskId_announceAll _).trans (taskId_announce _ .all platform r t)
  · simp only [if_neg hscope]
    let x := p.newJob source kind (some platform) r.query i (some p.site.board.bus.nextId)
    refine ⟨h.numbered_newJob hhas.1 .., ?_, h.attached.subscribe (x := x) rfl,
      List.cons_subset_cons _ h.running_subset⟩
    exact (h.shows.opens (x := x) hhas.2 fun t =>
      taskId_announce _ scope platform r t).of_trackers rfl

theorem search (h : p.Sound) {source : Nat} (hsource : source < p.site.stamps.length)
    (r : SearchRequest) {tracker : Option Nat}
    (htracker : ∀ i ∈ tracker, i < p.site.board.trackers.length) :
    (p.search source r tracker).Sound := by
  cases tracker with
  | none => exact ⟨h.numbered.draw source _, h.shows, h.attached, h.running_subset⟩
  | some i =>
    refine ⟨h.numbered_newJob hsource .., ?_, h.attached,
      fun x hx => List.mem_cons_of_mem _ (h.running_subset hx)⟩
    exact h.shows.opens (x := p.newJob source .search (some r.platform) r.query i none)
      (htracker i rfl) fun t => taskId_announceSearch _ r t

theorem finish (h : p.Sound) {x : Job} (hx : x ∈ p.running) (outcome : Outcome String) :
    (p.finish x outcome).Sound := by
  have hrunning : p.running.filter (fun y => y ≠ x) ⊆ p.opened :=
    List.Subset.trans List.filter_sublist.subset h.running_subset
  unfold Process.finish conclude
  cases hid : x.subscription with
  | none =>
    refine ⟨h.numbered, ?_, h.attached.restrict List.filter_sublist.subset, hrunning⟩
    exact h.shows.update (taskId_concludeAll _) _
  | some id =>
    refine ⟨h.numbered, ?_, h.attached.dispose hx hid, hrunning⟩
    exact (h.shows.update (taskId_showFailure outcome) x.tracker).of_trackers rfl

theorem drop (h : p.Sound) {x : Job} (hx : x ∈ p.running) : (p.drop x).Sound := by
  have hrunning : p.running.filter (fun y => y ≠ x) ⊆ p.opened :=
    List.Subset.trans List.filter_sublist.subset h.running_subset
  unfold Process.drop
  cases hid : x.subscription with
  | none => exact ⟨h.numbered, h.shows, h.attached.restrict List.filter_sublist.subset, hrunning⟩
  | some id => exact ⟨h.numbered, h.shows.of_trackers rfl, h.attached.dispose hx hid, hrunning⟩

/-- **Every step keeps the process sound.** -/
theorem step (h : p.Sound) (a : Action) : (p.step a).Sound := by
  cases a with
  | addCoordinator => exact ⟨h.numbered.coordinator, h.shows, h.attached, h.running_subset⟩
  | clock reading => exact ⟨h.numbered, h.shows, h.attached, h.running_subset⟩
  | addTracker title canWait => exact h.onBoard (fun b => b.add _) rfl (h.shows.add title canWait)
  | launch source scope platform r i =>
    rw [Process.step]
    split
    · exact h
    · split
      · next hhas => exact h.launch hhas .exporting scope platform r
      · exact h
  | replay source record i =>
    rw [Process.step]
    split
    · exact h
    · split
      · next hhas => exact h.launch hhas _ .platform _ _
      · exact h
  | search source r tracker =>
    rw [Process.step]
    split
    · next hhas => exact h.search hhas.2.1 r hhas.2.2
    · exact h
  | publish e =>
    exact h.onBoard (fun b => (b.publish e).2) (Board.bus_callAll _ e _) (h.shows.publish e)
  | elapse ms => exact h.onBoard (fun b => b.elapse ms) rfl (h.shows.elapse ms)
  | operate i a =>
    rw [Process.step]
    split
    · exact h
    · next hopens =>
      have hother : ∀ taskId statusText, a ≠ .begin taskId statusText := by
        rintro taskId statusText rfl
        exact hopens rfl
      exact h.onBoard (fun b => b.update i fun t => t.step a) rfl
        (h.shows.update (fun t => t.taskId_step hother) i)
  | attach i => exact ⟨h.numbered, h.shows.of_trackers rfl, h.attached.attach i, h.running_subset⟩
  | detach id =>
    rw [Process.step]
    split
    · next hid =>
      exact ⟨h.numbered, h.shows.of_trackers rfl, h.attached.detach hid, h.running_subset⟩
    · exact h
  | finish x outcome =>
    rw [Process.step]
    split
    · next hx => exact h.finish hx outcome
    · exact h
  | drop x =>
    rw [Process.step]
    split
    · next hx => exact h.drop hx
    · exact h

theorem run (h : p.Sound) (as : List Action) : (p.run as).Sound := by
  induction as generalizing p with
  | nil => exact h
  | cons a as ih => exact ih (h.step a)

end Sound

/-! ## Operations on their own -/

theorem run_append (p : Process σ) (as as' : List Action) :
    p.run (as ++ as') = (p.run as).run as' :=
  List.foldl_append

theorem run_publish (p : Process σ) (es : List Event) :
    p.run (es.map .publish) = p.onBoard fun b => b.publishAll es := by
  induction es generalizing p with
  | nil => rfl
  | cons e es ih => exact ih _

/-- The events of the command that an export gives, and its outcome; that of all platforms names no
file. -/
def answerOf (b : Backend σ) (taskId : String) (scope : ExportScope) (platform : Platform)
    (r : ExportRequest) (backend : σ) : List Event × Outcome String :=
  if scope = .all then
    let answer := (b (.exportAll r) backend).1
    (answer.events, Except.map (fun _ => "") answer.outcome)
  else
    let answer := (b (.exportPlatform taskId platform r) backend).1
    (answer.events, answer.outcome)

theorem task_newExport (p : Process σ) (source : Nat) (kind : Task.IdKind) (scope : ExportScope)
    (platform : Platform) (r : ExportRequest) (i : Nat) :
    (p.newExport source kind scope platform r i).task
      = ⟨kind.id (p.site.nextStamp source).1, kind.taskKind,
          if scope = .all then none else some platform, r.query⟩ := by
  by_cases hscope : scope = .all
  · rw [newExport, if_pos hscope, if_pos hscope]
    rfl
  · rw [newExport, if_neg hscope, if_neg hscope]
    rfl

/-- The end of an export of all platforms. -/
theorem conclude_all {x : Job} (hx : x.subscription = none) (outcome : Outcome Unit) (s : Site σ) :
    conclude x (Except.map (fun _ => "") outcome) s = s.update x.tracker (concludeAll outcome) := by
  rw [conclude, hx]
  cases outcome <;> rfl

/-- The end of an export of one platform. -/
theorem conclude_platform {x : Job} {id : Nat} (hx : x.subscription = some id)
    (outcome : Outcome String) (s : Site σ) :
    conclude x outcome s = (finishPlatform x.task x.tracker id outcome s).2 := by
  rw [conclude, hx]

/-- An export that has been launched goes through the events of its command to its end. -/
theorem board_runTask (b : Backend σ) (p : Process σ) (source i : Nat) (kind : Task.IdKind)
    (scope : ExportScope) (platform : Platform) (r : ExportRequest) :
    let x := p.newExport source kind scope platform r i
    let answer := answerOf b x.task.id scope platform r p.site.backend
    (runTask b x.task scope platform r i (p.site.nextStamp source).2).2.board
      = ((p.launch source kind scope platform r i).run
          (answer.1.map .publish ++ [.finish x answer.2])).site.board := by
  intro x answer
  have hfinish : ∀ q : Process σ, x ∈ q.running →
      (q.step (.finish x answer.2)).site.board = (conclude x answer.2 q.site).board := by
    intro q hq
    rw [step, if_pos hq]
    rfl
  rw [run_append, run_publish]
  show _ = (Process.step _ (.finish x answer.2)).site.board
  rw [hfinish _ List.mem_cons_self]
  by_cases hscope : scope = .all
  · have hx : x = p.newJob source kind none r.query i none := if_pos hscope
    obtain ⟨outcome, houtcome⟩ : ∃ outcome : Outcome Unit,
        outcome = (b (.exportAll r) p.site.backend).1.outcome := ⟨_, rfl⟩
    have hanswer : answer = ((b (.exportAll r) p.site.backend).1.events,
        Except.map (fun _ => "") outcome) := houtcome ▸ if_pos hscope
    have hlaunched : (p.launch source kind scope platform r i).site
        = (p.site.nextStamp source).2.update i fun t =>
          announceAll (announce x.task.id .all platform r t) := if_pos hscope
    have hsubscription : x.subscription = none := congrArg Job.subscription hx
    have htracker : x.tracker = i := congrArg Job.tracker hx
    rw [hanswer, conclude_all hsubscription, htracker, onBoard, hlaunched, hscope, houtcome]
    rfl
  · have hx : x = p.newJob source kind (some platform) r.query i
        (some p.site.board.bus.nextId) := if_neg hscope
    obtain ⟨outcome, houtcome⟩ : ∃ outcome : Outcome String,
        outcome = (b (.exportPlatform x.task.id platform r) p.site.backend).1.outcome := ⟨_, rfl⟩
    have hanswer : answer = ((b (.exportPlatform x.task.id platform r) p.site.backend).1.events,
        outcome) := houtcome ▸ if_neg hscope
    have hlaunched : (p.launch source kind scope platform r i).site
        = (start x.task scope platform r i (p.site.nextStamp source).2).2 := if_neg hscope
    have hsubscription : x.subscription = some p.site.board.bus.nextId :=
      congrArg Job.subscription hx
    have htracker : x.tracker = i := congrArg Job.tracker hx
    rw [hanswer, conclude_platform hsubscription, htracker, onBoard, hlaunched, runTask_eq b hscope,
      houtcome]
    rfl

/-- **An export** is its launch, the events of its command and its end, if nothing else happens
meanwhile. -/
theorem board_run (b : Backend σ) (p : Process σ) {source i : Nat} (scope : ExportScope)
    (platform : Platform) {r : ExportRequest} (hcheck : r.check = .ok ()) (hhas : p.Has source i) :
    let x := p.newExport source .exporting scope platform r i
    let answer := answerOf b x.task.id scope platform r p.site.backend
    (Export.run b source scope platform r i p.site).2.board
      = (p.run (.launch source scope platform r i :: (answer.1.map .publish
          ++ [.finish x answer.2]))).site.board := by
  intro x answer
  have hlaunch : p.step (.launch source scope platform r i)
      = p.launch source .exporting scope platform r i := by
    rw [step, hcheck]
    exact if_pos hhas
  have htask := p.task_newExport source .exporting scope platform r i
  have hrun := board_runTask b p source i .exporting scope platform r
  dsimp only at hrun
  rw [Export.run, hcheck]
  show _ = ((p.step (.launch source scope platform r i)).run _).site.board
  rw [hlaunch, ← hrun, htask]
  rfl

/-- A past query is exported as it was. -/
theorem query_of_replayRequest {record : HistoryRecord} {platform : Platform} {r : ExportRequest}
    (h : replayRequest record = .ok (platform, r)) : r.query = record.query := by
  unfold replayRequest at h
  split at h
  · split at h
    · cases h
    · dsimp only at h
      split at h
      · cases h
      · -- the request was checked, which does not change it
        cases hcheck : (ExportRequest.new record.query
          (pagesFor record.resultsCount replayPageSize) replayPageSize).check with
        | error e =>
          rw [hcheck] at h
          cases h
        | ok u =>
          rw [hcheck] at h
          obtain ⟨-, rfl⟩ := Prod.mk.inj (Except.ok.inj h)
          rfl
  · cases h

/-- **The export of a past query** likewise. -/
theorem board_replay (b : Backend σ) (p : Process σ) {source i : Nat} {record : HistoryRecord}
    {platform : Platform} {r : ExportRequest} (hrequest : replayRequest record = .ok (platform, r))
    (hhas : p.Has source i) :
    let x := p.newExport source (.past platform) .platform platform r i
    let answer := answerOf b x.task.id .platform platform r p.site.backend
    (replay b source record i p.site).2.board
      = (p.run (.replay source record i :: (answer.1.map .publish
          ++ [.finish x answer.2]))).site.board := by
  intro x answer
  have hlaunch : p.step (.replay source record i)
      = p.launch source (.past platform) .platform platform r i := by
    rw [step, hrequest]
    exact if_pos hhas
  have hrun := board_runTask b p source i (.past platform) .platform platform r
  dsimp only at hrun
  rw [replay, hrequest, ← query_of_replayRequest hrequest]
  show _ = ((p.step (.replay source record i)).run _).site.board
  rw [hlaunch, ← hrun]
  rfl

/-- How a search changes its tracker at its end. -/
def searchEnd (outcome : Outcome SearchPage) : Tracker.Action :=
  match outcome with
  | .ok page =>
    .finish .success (Search.percent 100) s!"Found {page.total} results"
      (some ⟨s!"Search finished: {page.total} total, {page.results.length} on this page", .success⟩)
  | .error e =>
    .finish .error (Search.percent 100) (Progress.Snapshot.failureText e.userMessage)
      (some ⟨Progress.Snapshot.failureText e.userMessage, .error⟩)

theorem step_searchEnd (p : Process σ) (i : Nat) (outcome : Outcome SearchPage) :
    p.step (.operate i (searchEnd outcome))
      = p.onBoard fun board => board.update i (Search.conclude outcome) := by
  have hopens : opensDisplay (searchEnd outcome) = false := by
    cases outcome <;> rfl
  have hconclude : (fun t : Tracker => t.step (searchEnd outcome)) = Search.conclude outcome := by
    funext t
    cases outcome <;> rfl
  rw [step, hopens, hconclude]
  rfl

/-- **A search** is its start, the events of its command and the last change of its tracker. -/
theorem board_search (b : Backend σ) (p : Process σ) {source : Nat} {r : SearchRequest}
    {tracker : Option Nat} (hquery : Text.blank r.query = false)
    (hsource : source < p.site.stamps.length)
    (htracker : ∀ i ∈ tracker, i < p.site.board.trackers.length) :
    let answer := (b (.search r) p.site.backend).1
    (Search.run b source r tracker p.site).2.board
      = (p.run (.search source r tracker :: (answer.events.map .publish
          ++ tracker.toList.map fun i => .operate i (searchEnd answer.outcome)))).site.board := by
  intro answer
  have hstart : p.step (.search source r tracker) = p.search source r tracker :=
    if_pos ⟨hquery, hsource, htracker⟩
  rw [Search.run, if_neg (ne_true_of_eq_false hquery)]
  show _ = ((p.step (.search source r tracker)).run _).site.board
  rw [hstart, run_append, run_publish]
  cases tracker with
  | none => rfl
  | some i =>
    have hend := step_searchEnd ((p.search source r (some i)).onBoard fun board =>
      board.publishAll answer.events) i answer.outcome
    exact (congrArg (fun q : Process σ => q.site.board) hend).symm

end Process

end AssetSearch.Export
