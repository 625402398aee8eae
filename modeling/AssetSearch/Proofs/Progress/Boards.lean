/-
# A tracker that listens to the bus

A tracker that is attached once takes over the events of its task, one by one, whatever else is
attached; while no timer of it is due, the time that passes between the events shows nothing.

Key definitions: `Board.AttachedOnce`, `Board.Listens`, `Board.Happening`, `Board.Undisturbed`.  Key
statements: `tracker_publish_ne_iff`, `AttachedOnce.tracker_publish`,
`AttachedOnce.snapshot_passAll`.
-/
import AssetSearch.Progress.Board
import AssetSearch.Proofs.Progress.Displays

namespace AssetSearch.Progress.Board

variable {b : Board} {i : Nat}

/-! ## One tracker among others -/

theorem tracker_update_self (hi : i < b.trackers.length) (f : Tracker → Tracker) :
    (b.update i f).tracker i = f (b.tracker i) := by
  simp [tracker, update, List.getD_eq_getElem?_getD, hi]

theorem tracker_update_of_ne {j : Nat} (h : j ≠ i) (f : Tracker → Tracker) :
    (b.update i f).tracker j = b.tracker j := by
  simp [tracker, update, List.getD_eq_getElem?_getD, Ne.symm h]

@[simp] theorem length_update (j : Nat) (f : Tracker → Tracker) :
    (b.update j f).trackers.length = b.trackers.length := List.length_modify _ _ _

theorem tracker_elapse (hi : i < b.trackers.length) (ms : Nat) :
    (b.elapse ms).tracker i = (b.tracker i).elapse ms := by
  simp [tracker, elapse, List.getD_eq_getElem?_getD, hi]

/-- Calling the listeners of an event, one after the other. -/
def callAll (b : Board) (e : Event) (ls : List (Listener Nat)) : Board :=
  ls.foldl (fun board l => board.update l.handler fun t => t.offer e) b

theorem publish_eq (b : Board) (e : Event) :
    (b.publish e).2 = b.callAll e (b.bus.recipients e) := rfl

theorem bus_callAll (b : Board) (e : Event) (ls : List (Listener Nat)) :
    (b.callAll e ls).bus = b.bus := by
  induction ls generalizing b with
  | nil => rfl
  | cons l ls ih => exact ih (b.update l.handler _)

theorem length_callAll (b : Board) (e : Event) (ls : List (Listener Nat)) :
    (b.callAll e ls).trackers.length = b.trackers.length := by
  induction ls generalizing b with
  | nil => rfl
  | cons l ls ih => exact (ih _).trans (length_update l.handler _)

/-- Listeners of other trackers leave a tracker alone. -/
theorem tracker_callAll (b : Board) (e : Event) {ls : List (Listener Nat)}
    (h : ∀ l ∈ ls, l.handler ≠ i) : (b.callAll e ls).tracker i = b.tracker i := by
  induction ls generalizing b with
  | nil => rfl
  | cons l ls ih =>
    have hl : i ≠ l.handler := Ne.symm (h l List.mem_cons_self)
    have hstep := ih (b.update l.handler fun t => t.offer e)
      fun l' hl' => h l' (List.mem_cons_of_mem l hl')
    exact hstep.trans (tracker_update_of_ne hl _)

/-! ## What an event changes -/

theorem tracker_of_length_le (h : b.trackers.length ≤ i) : b.tracker i = default := by
  rw [tracker, List.getD_eq_getElem?_getD, List.getElem?_eq_none h, Option.getD_none]

/-- A change of a tracker that keeps the task on display. -/
theorem taskId_update {f : Tracker → Tracker}
    (hf : ∀ t : Tracker, (f t).snapshot.taskId = t.snapshot.taskId) (j : Nat) :
    ((b.update j f).tracker i).snapshot.taskId = (b.tracker i).snapshot.taskId := by
  by_cases hij : i = j
  · subst hij
    by_cases hi : i < b.trackers.length
    · rw [tracker_update_self hi, hf]
    · have hle := Nat.le_of_not_lt hi
      rw [tracker_of_length_le hle, tracker_of_length_le (by rwa [length_update])]
  · rw [tracker_update_of_ne hij]

theorem taskId_callAll (b : Board) (e : Event) (ls : List (Listener Nat)) :
    ((b.callAll e ls).tracker i).snapshot.taskId = (b.tracker i).snapshot.taskId := by
  induction ls generalizing b with
  | nil => rfl
  | cons l ls ih => exact (ih _).trans (taskId_update (fun t => t.taskId_offer e) l.handler)

/-- Events of other tasks change nothing. -/
theorem tracker_callAll_of_other {e : Event} (h : (b.tracker i).snapshot.taskId ≠ some e.taskId)
    (ls : List (Listener Nat)) : (b.callAll e ls).tracker i = b.tracker i := by
  induction ls generalizing b with
  | nil => rfl
  | cons l ls ih =>
    have hstep : (b.update l.handler fun t => t.offer e).tracker i = b.tracker i := by
      by_cases hl : i = l.handler
      · subst hl
        by_cases hi : l.handler < b.trackers.length
        · rw [tracker_update_self hi, Tracker.offer_eq, if_neg h]
        · have hle := Nat.le_of_not_lt hi
          rw [tracker_of_length_le hle, tracker_of_length_le (by rwa [length_update])]
      · exact tracker_update_of_ne hl _
    rw [← hstep] at h ⊢
    exact ih h

/-- Every call of a listener counts one revision, if the event is one of the task. -/
theorem revision_callAll {e : Event} (h : (b.tracker i).snapshot.taskId = some e.taskId)
    (ls : List (Listener Nat)) :
    ((b.callAll e ls).tracker i).snapshot.revision
      = (b.tracker i).snapshot.revision + (ls.filter fun l => l.handler = i).length := by
  have hi : i < b.trackers.length := by
    by_contra hle
    rw [tracker_of_length_le (Nat.le_of_not_lt hle)] at h
    cases h
  induction ls generalizing b with
  | nil => rfl
  | cons l ls ih =>
    have htask : ((b.update l.handler fun t => t.offer e).tracker i).snapshot.taskId
        = some e.taskId := by
      rw [taskId_update fun t => t.taskId_offer e, h]
    have hrest := ih htask (by rwa [length_update])
    refine hrest.trans ?_
    by_cases hl : l.handler = i
    · subst hl
      rw [tracker_update_self hi, Tracker.offer_eq, if_pos h, Tracker.snapshot_apply,
        List.filter_cons_of_pos (by simp), List.length_cons]
      show (b.tracker l.handler).snapshot.revision + 1 + _ = _
      omega
    · rw [tracker_update_of_ne (Ne.symm hl), List.filter_cons_of_neg (by simpa using hl)]

/-- **An event changes the trackers that listen and show its task**, and no others. -/
theorem tracker_publish_ne_iff (b : Board) (e : Event) (i : Nat) :
    (b.publish e).2.tracker i ≠ b.tracker i ↔
      (∃ l ∈ b.bus.recipients e, l.handler = i) ∧
        (b.tracker i).snapshot.taskId = some e.taskId := by
  rw [publish_eq]
  constructor
  · intro hne
    constructor
    · by_contra hnobody
      push Not at hnobody
      exact hne (tracker_callAll b e hnobody)
    · by_contra hother
      exact hne (tracker_callAll_of_other hother _)
  · rintro ⟨⟨l, hl, rfl⟩, htask⟩ hsame
    have hrevision := revision_callAll htask (b.bus.recipients e)
    rw [hsame] at hrevision
    have hcount : 0 < ((b.bus.recipients e).filter fun l' => l'.handler = l.handler).length :=
      List.length_pos_of_mem (List.mem_filter.2 ⟨hl, decide_eq_true rfl⟩)
    omega

/-! ## A tracker that is attached once -/

/-- Every call of a listener of a tracker offers it the event; the other listeners leave it
alone. -/
theorem tracker_callAll_eq (hi : i < b.trackers.length) (e : Event) (ls : List (Listener Nat)) :
    (b.callAll e ls).tracker i
      = (ls.filter fun l => l.handler = i).foldl (fun t _ => t.offer e) (b.tracker i) := by
  induction ls generalizing b with
  | nil => rfl
  | cons l ls ih =>
    have hrest := ih (b := b.update l.handler fun t => t.offer e) (by rwa [length_update])
    refine hrest.trans ?_
    by_cases hl : l.handler = i
    · subst hl
      rw [tracker_update_self hi, List.filter_cons_of_pos (by simp), List.foldl_cons]
    · rw [tracker_update_of_ne (Ne.symm hl), List.filter_cons_of_neg (by simpa using hl)]

/-- A tracker listens with exactly one live subscription, which is to the events of all tasks. -/
structure AttachedOnce (b : Board) (i : Nat) : Prop where
  exists_tracker : i < b.trackers.length
  attached : ∃ l : Listener Nat, l.taskFilter = none ∧
    b.bus.listeners.filter (fun l => l.handler = i) = [l]

namespace AttachedOnce

/-- An event is offered to the tracker once. -/
theorem tracker_publish (h : b.AttachedOnce i) (e : Event) :
    (b.publish e).2.tracker i = (b.tracker i).offer e := by
  obtain ⟨l, hfilter, hlisteners⟩ := h.attached
  have hwants : l.wants e = true := by
    rw [Listener.wants, hfilter]
  have hrecipients : (b.bus.recipients e).filter (fun l => l.handler = i) = [l] := by
    have hcomm : (b.bus.recipients e).filter (fun l => l.handler = i)
        = (b.bus.listeners.filter fun l => l.handler = i).filter fun l => l.wants e := by
      rw [Bus.recipients, List.filter_filter, List.filter_filter]
      exact List.filter_congr fun l _ => Bool.and_comm _ _
    rw [hcomm, hlisteners]
    simp [hwants]
  rw [publish_eq, tracker_callAll_eq h.exists_tracker, hrecipients]
  rfl

theorem publish (h : b.AttachedOnce i) (e : Event) : (b.publish e).2.AttachedOnce i where
  exists_tracker := by
    rw [publish_eq, length_callAll]
    exact h.exists_tracker
  attached := by
    rw [publish_eq, bus_callAll]
    exact h.attached

theorem elapse (h : b.AttachedOnce i) (ms : Nat) : (b.elapse ms).AttachedOnce i where
  exists_tracker := by
    rw [Board.elapse, List.length_map]
    exact h.exists_tracker
  attached := h.attached

theorem update (h : b.AttachedOnce i) (j : Nat) (f : Tracker → Tracker) :
    (b.update j f).AttachedOnce i where
  exists_tracker := by
    rw [length_update]
    exact h.exists_tracker
  attached := h.attached

end AttachedOnce

/-! ## A tracker that listens -/

/-- A tracker is attached, as the last listener of the bus, and nowhere else. -/
structure Listens (b : Board) (i : Nat) : Prop where
  exists_tracker : i < b.trackers.length
  attached : ∃ others id, b.bus.listeners = others ++ [⟨id, none, i⟩] ∧ ∀ l ∈ others, l.handler ≠ i

theorem listens_attach (hi : i < b.trackers.length) (h : ∀ l ∈ b.bus.listeners, l.handler ≠ i) :
    (b.attach i).2.Listens i where
  exists_tracker := hi
  attached := ⟨b.bus.listeners, b.bus.nextId, rfl, h⟩

namespace Listens

theorem attachedOnce (h : b.Listens i) : b.AttachedOnce i where
  exists_tracker := h.exists_tracker
  attached := by
    obtain ⟨others, id, hlisteners, hothers⟩ := h.attached
    refine ⟨⟨id, none, i⟩, rfl, ?_⟩
    have hnone : others.filter (fun l => l.handler = i) = [] := by
      simpa [List.filter_eq_nil_iff] using hothers
    rw [hlisteners, List.filter_append, hnone, List.nil_append,
      List.filter_cons_of_pos (by simp), List.filter_nil]

/-- An event is offered to the tracker once. -/
theorem tracker_publish (h : b.Listens i) (e : Event) :
    (b.publish e).2.tracker i = (b.tracker i).offer e :=
  h.attachedOnce.tracker_publish e

theorem publish (h : b.Listens i) (e : Event) : (b.publish e).2.Listens i where
  exists_tracker := by
    rw [publish_eq, length_callAll]
    exact h.exists_tracker
  attached := by
    rw [publish_eq, bus_callAll]
    exact h.attached

theorem elapse (h : b.Listens i) (ms : Nat) : (b.elapse ms).Listens i where
  exists_tracker := by
    rw [Board.elapse, List.length_map]
    exact h.exists_tracker
  attached := h.attached

/-- The tracker takes over the events of its task. -/
theorem tracker_publishAll (h : b.Listens i) (es : List Event) :
    (b.publishAll es).tracker i = es.foldl Tracker.offer (b.tracker i) := by
  induction es generalizing b with
  | nil => rfl
  | cons e es ih =>
    have hstep := ih (h.publish e)
    rw [h.tracker_publish e] at hstep
    exact hstep

end Listens

/-! ## Events and the time between them -/

/-- What happens on a board while a command runs. -/
inductive Happening where
  /-- An event is published. -/
  | published (e : Event)
  /-- Some milliseconds pass. -/
  | paused (ms : Nat)

/-- The event that is published. -/
def Happening.event? : Happening → Option Event
  | published e => some e
  | paused _ => none

/-- What comes of it. -/
def pass (b : Board) : Happening → Board
  | .published e => (b.publish e).2
  | .paused ms => b.elapse ms

def passAll (b : Board) (hs : List Happening) : Board :=
  hs.foldl pass b

theorem Listens.passAll (h : b.Listens i) (hs : List Happening) : (b.passAll hs).Listens i := by
  induction hs generalizing b with
  | nil => exact h
  | cons x hs ih =>
    cases x with
    | published e => exact ih (h.publish e)
    | paused ms => exact ih (h.elapse ms)

/-- No timer of a tracker is due in any pause. -/
def Undisturbed (b : Board) (i : Nat) : List Happening → Prop
  | [] => True
  | h :: hs => (∀ ms, h = .paused ms → ∀ timer ∈ (b.tracker i).timers,
      (b.tracker i).now + ms < timer.deadline) ∧ (b.pass h).Undisturbed i hs

/-- Events with no pauses between them. -/
theorem passAll_published (b : Board) (es : List Event) :
    b.passAll (es.map .published) = b.publishAll es := by
  rw [passAll, List.foldl_map]
  rfl

theorem undisturbed_published (b : Board) (i : Nat) (es : List Event) :
    b.Undisturbed i (es.map .published) := by
  induction es generalizing b with
  | nil => trivial
  | cons e es ih =>
    refine ⟨?_, ih _⟩
    intro ms hms
    cases hms

/-- An event offered to a display: it is taken over if it belongs to the task. -/
def offerTo (s : Snapshot) (e : Event) : Snapshot :=
  if s.taskId = some e.taskId then (s.apply e).bump else s

/-- **The display of a tracker depends on the events only**, and not on the pauses. -/
theorem AttachedOnce.snapshot_passAll (h : b.AttachedOnce i) {hs : List Happening}
    (hquiet : b.Undisturbed i hs) :
    ((b.passAll hs).tracker i).snapshot
      = (hs.filterMap Happening.event?).foldl offerTo (b.tracker i).snapshot := by
  induction hs generalizing b with
  | nil => rfl
  | cons x hs ih =>
    obtain ⟨hpause, hrest⟩ := hquiet
    cases x with
    | published e =>
      have hshown : ((b.publish e).2.tracker i).snapshot = offerTo (b.tracker i).snapshot e := by
        rw [h.tracker_publish, Tracker.offer_eq, offerTo]
        split
        · exact Tracker.snapshot_apply _ e
        · rfl
      have hstep := ih (h.publish e) hrest
      rw [hshown] at hstep
      exact hstep
    | paused ms =>
      have hshown : ((b.elapse ms).tracker i).snapshot = (b.tracker i).snapshot := by
        rw [tracker_elapse h.exists_tracker, Tracker.elapse_of_quiet (hpause ms rfl)]
      have hstep := ih (h.elapse ms) hrest
      rw [hshown] at hstep
      exact hstep

theorem Listens.snapshot_passAll (h : b.Listens i) {hs : List Happening}
    (hquiet : b.Undisturbed i hs) :
    ((b.passAll hs).tracker i).snapshot
      = (hs.filterMap Happening.event?).foldl offerTo (b.tracker i).snapshot :=
  h.attachedOnce.snapshot_passAll hquiet

/-- A tracker takes over the events of its task, and those of other tasks change nothing. -/
theorem foldl_offer {t : Tracker} {k : String} (h : t.snapshot.taskId = some k) (es : List Event) :
    es.foldl Tracker.offer t = (es.filter fun e => e.taskId = k).foldl Tracker.apply t := by
  induction es generalizing t with
  | nil => rfl
  | cons e es ih =>
    rw [List.foldl_cons, Tracker.offer_eq, h]
    by_cases he : e.taskId = k
    · subst he
      rw [if_pos rfl, List.filter_cons_of_pos (by simp)]
      refine ih ?_
      rw [Tracker.snapshot_apply]
      exact h
    · rw [if_neg (by simpa using Ne.symm he), List.filter_cons_of_neg (by simpa using he), ih h]

/-- The events of other tasks do not matter to a display. -/
theorem foldl_offerTo {s : Snapshot} {task : String} (h : s.taskId = some task) (es : List Event) :
    es.foldl offerTo s = s.takeAll (es.filter fun e => e.taskId = task) := by
  induction es generalizing s with
  | nil => rfl
  | cons e es ih =>
    rw [List.foldl_cons, offerTo, h]
    by_cases he : e.taskId = task
    · subst he
      rw [if_pos rfl, List.filter_cons_of_pos (by simp)]
      exact ih h
    · rw [if_neg (by simpa using Ne.symm he), List.filter_cons_of_neg (by simpa using he), ih h]

end AssetSearch.Progress.Board
