/-
# Steps of a desk

Each step of a desk subscribes, ends a subscription, starts a publication, calls a listener or ends
a publication.  Calls are never invented and never lost: what a step calls was due before, and what
a publication takes becomes due.

Key definitions: `Desk.Moves`, `calls`, `Desk.due`, `received`, `Desk.Numbered`, `Desk.Calm`.
Key statements: `Moves.calls_append_due`, `Numbered.moves`, `exists_calm_rest`.
-/
import Mathlib.Tactic.Common
import AssetSearch.Progress.Delivery

namespace AssetSearch.Progress

variable {H : Type}

/-! ## Calls -/

/-- The subscription that is called, and the event. -/
def Desk.Trace.call? : Desk.Trace → Option (Nat × Event)
  | .called id e => some (id, e)
  | _ => none

/-- The calls of a run, in order. -/
def calls (ts : List Desk.Trace) : List (Nat × Event) :=
  ts.filterMap Desk.Trace.call?

/-- The events in the calls of one subscription. -/
def eventsOf (id : Nat) (cs : List (Nat × Event)) : List Event :=
  cs.filterMap fun c => if c.1 = id then some c.2 else none

/-- The events that one subscription receives in a run, in order. -/
def received (id : Nat) (ts : List Desk.Trace) : List Event :=
  eventsOf id (calls ts)

theorem eventsOf_append (id : Nat) (cs cs' : List (Nat × Event)) :
    eventsOf id (cs ++ cs') = eventsOf id cs ++ eventsOf id cs' :=
  List.filterMap_append

theorem eventsOf_eq_nil_iff {id : Nat} {cs : List (Nat × Event)} :
    eventsOf id cs = [] ↔ ∀ c ∈ cs, c.1 ≠ id := by
  simp [eventsOf]

theorem calls_append (ts ts' : List Desk.Trace) : calls (ts ++ ts') = calls ts ++ calls ts' :=
  List.filterMap_append

theorem calls_cons (t : Desk.Trace) (ts : List Desk.Trace) :
    calls (t :: ts) = calls [t] ++ calls ts :=
  calls_append [t] ts

theorem mem_calls_iff {id : Nat} {e : Event} {ts : List Desk.Trace} :
    (id, e) ∈ calls ts ↔ .called id e ∈ ts := by
  rw [calls, List.mem_filterMap]
  constructor
  · rintro ⟨t, hmem, ht⟩
    cases t with
    | called other e' =>
      cases ht
      exact hmem
    | _ => cases ht
  · intro hmem
    exact ⟨.called id e, hmem, rfl⟩

theorem received_append (id : Nat) (ts ts' : List Desk.Trace) :
    received id (ts ++ ts') = received id ts ++ received id ts' := by
  rw [received, calls_append, eventsOf_append]
  rfl

theorem received_cons (id : Nat) (t : Desk.Trace) (ts : List Desk.Trace) :
    received id (t :: ts) = received id [t] ++ received id ts :=
  received_append id [t] ts

/-- The calls that a publication still has before it. -/
def Delivery.due (p : Delivery H) : List (Nat × Event) :=
  p.waiting.map fun l => (l.id, p.event)

namespace Desk

variable {d d' d'' : Desk H} {a : Action H} {t : Trace}

/-- The calls that the publications underway still have before them, the innermost first. -/
def due (d : Desk H) : List (Nat × Event) :=
  d.underway.flatMap Delivery.due

/-! ## What a step does -/

/-- The five kinds of steps. -/
inductive Moves : Desk H → Action H → Trace → Desk H → Prop where
  | subscribe (d : Desk H) (taskFilter : Option String) (handler : H) :
    Moves d (.subscribe taskFilter handler) (.subscribed d.bus.nextId)
      (d.subscribe taskFilter handler).2
  | dispose (d : Desk H) (id : Nat) : Moves d (.dispose id) (.disposed id) (d.dispose id)
  | publish (d : Desk H) (e : Event) : Moves d (.publish e) (.started e) (d.publish e)
  | deliver (bus : Bus H) (e : Event) (l : Listener H) (waiting : List (Listener H)) (total : Nat)
      (rest : List (Delivery H)) :
    Moves ⟨bus, ⟨e, l :: waiting, total⟩ :: rest⟩ .deliver (.called l.id e)
      ⟨bus, ⟨e, waiting, total⟩ :: rest⟩
  | finish (bus : Bus H) (e : Event) (total : Nat) (rest : List (Delivery H)) :
    Moves ⟨bus, ⟨e, [], total⟩ :: rest⟩ .finish (.returned total) ⟨bus, rest⟩

theorem moves_of_step? (h : d.step? a = some (t, d')) : Moves d a t d' := by
  obtain ⟨bus, underway⟩ := d
  cases a with
  | subscribe taskFilter handler =>
    cases h
    exact .subscribe ⟨bus, underway⟩ taskFilter handler
  | dispose id =>
    cases h
    exact .dispose ⟨bus, underway⟩ id
  | publish e =>
    cases h
    exact .publish ⟨bus, underway⟩ e
  | deliver =>
    match underway with
    | [] => cases h
    | ⟨e, [], total⟩ :: rest => cases h
    | ⟨e, l :: waiting, total⟩ :: rest =>
      cases h
      exact .deliver bus e l waiting total rest
  | finish =>
    match underway with
    | [] => cases h
    | ⟨e, l :: waiting, total⟩ :: rest => cases h
    | ⟨e, [], total⟩ :: rest =>
      cases h
      exact .finish bus e total rest

/-- The calls that a step makes due: those of the listeners that a publication takes. -/
def taken (d : Desk H) : Action H → List (Nat × Event)
  | .publish e => (d.bus.recipients e).map fun l => (l.id, e)
  | _ => []

/-- **Calls are neither invented nor lost.** -/
theorem Moves.calls_append_due (h : Moves d a t d') :
    calls [t] ++ d'.due = d.taken a ++ d.due := by
  cases h <;> rfl

/-! ## Numbers of subscriptions -/

/-- Subscriptions are numbered in the order in which they are made. -/
structure Numbered (d : Desk H) : Prop where
  increasing : d.bus.listeners.Pairwise fun l m => l.id < m.id
  listener_lt : ∀ l ∈ d.bus.listeners, l.id < d.bus.nextId
  due_lt : ∀ c ∈ d.due, c.1 < d.bus.nextId

theorem numbered_empty : (empty : Desk H).Numbered where
  increasing := .nil
  listener_lt := by
    intro l hl
    cases hl
  due_lt := by
    intro c hc
    cases hc

theorem Moves.nextId_le (h : Moves d a t d') : d.bus.nextId ≤ d'.bus.nextId := by
  cases h with
  | subscribe => exact Nat.le_succ _
  | _ => exact Nat.le_refl _

/-- **Every step keeps the numbering.** -/
theorem Numbered.moves (hd : d.Numbered) (h : Moves d a t d') : d'.Numbered := by
  have hle := h.nextId_le
  cases h with
  | subscribe d taskFilter handler =>
    refine ⟨?_, ?_, ?_⟩
    · refine List.pairwise_append.2 ⟨hd.increasing, List.pairwise_singleton _ _, ?_⟩
      intro l hl m hm
      rw [List.mem_singleton.1 hm]
      exact hd.listener_lt l hl
    · intro l hl
      rcases List.mem_append.1 hl with hl | hl
      · exact Nat.lt_of_lt_of_le (hd.listener_lt l hl) hle
      · rw [List.mem_singleton.1 hl]
        exact Nat.lt_succ_self _
    · intro c hc
      exact Nat.lt_of_lt_of_le (hd.due_lt c hc) hle
  | dispose d id =>
    refine ⟨hd.increasing.filter _, ?_, hd.due_lt⟩
    intro l hl
    exact hd.listener_lt l (List.mem_filter.1 hl).1
  | publish d e =>
    refine ⟨hd.increasing, hd.listener_lt, ?_⟩
    intro c hc
    rcases List.mem_append.1 hc with hc | hc
    · -- the listeners of the event are listeners of the bus
      obtain ⟨l, hl, rfl⟩ := List.mem_map.1 hc
      exact hd.listener_lt l (List.mem_filter.1 hl).1
    · exact hd.due_lt c hc
  | deliver bus e l waiting total rest =>
    exact ⟨hd.increasing, hd.listener_lt, fun c hc => hd.due_lt c (List.mem_cons_of_mem _ hc)⟩
  | finish bus e total rest => exact ⟨hd.increasing, hd.listener_lt, hd.due_lt⟩

theorem Numbered.run {ts : List Trace} (hd : d.Numbered) (h : Run d ts d') : d'.Numbered := by
  induction h with
  | refl d => exact hd
  | step hstep _ ih => exact ih (hd.moves (moves_of_step? hstep))

theorem Run.nextId_le {ts : List Trace} (h : Run d ts d') : d.bus.nextId ≤ d'.bus.nextId := by
  induction h with
  | refl d => exact Nat.le_refl _
  | step hstep _ ih => exact Nat.le_trans (moves_of_step? hstep).nextId_le ih

/-- Numbers that were given are below the next one. -/
theorem Run.lt_of_subscribed {ts : List Trace} {id : Nat} (h : Run d ts d')
    (hmem : .subscribed id ∈ ts) : id < d'.bus.nextId := by
  induction h with
  | refl d => cases hmem
  | step hstep hrest ih =>
    rcases List.mem_cons.1 hmem with rfl | hmem
    · have hmove := moves_of_step? hstep
      cases hmove
      exact hrest.nextId_le
    · exact ih hmem

/-- Only subscriptions with a number are called. -/
theorem Run.lt_of_called {ts : List Trace} (h : Run d ts d') (hd : d.Numbered) :
    ∀ c ∈ calls ts, c.1 < d'.bus.nextId := by
  induction h with
  | refl d =>
    intro c hc
    cases hc
  | step hstep hrest ih =>
    have hmove := moves_of_step? hstep
    intro c hc
    rw [calls_cons] at hc
    rcases List.mem_append.1 hc with hc | hc
    · refine Nat.lt_of_lt_of_le ?_ (Nat.le_trans hmove.nextId_le hrest.nextId_le)
      -- what is called was due
      cases hmove with
      | deliver bus e l waiting total rest =>
        rw [List.mem_singleton.1 hc]
        exact hd.due_lt (l.id, e) List.mem_cons_self
      | _ => cases hc
    · exact ih (hd.moves hmove) c hc

/-! ## Histories -/

/-- A step in a history, with what it showed. -/
structure Entry (H : Type) where
  action : Action H
  trace : Trace

/-- What a history showed. -/
def traces (h : List (Entry H)) : List Trace :=
  h.map Entry.trace

/-- Whether the step may be taken while an event is being delivered: any but to publish another. -/
def Action.isMild : Action H → Bool
  | .publish _ => false
  | _ => true

/-- What only mild steps may interrupt, a publication does not. -/
theorem idle_of_publish {e : Event}
    (h : d.underway ≠ [] → (Action.publish e : Action H).isMild = true) : d.underway = [] := by
  by_contra hne
  cases h hne

/-- A history in which nothing is published while an event is being delivered.  Subscriptions may be
made and ended at any time, by handlers or by others. -/
inductive Calm : Desk H → List (Entry H) → Desk H → Prop where
  | refl (d : Desk H) : Calm d [] d
  | step {d d' d'' : Desk H} {a : Action H} {t : Trace} {h : List (Entry H)} :
    (d.underway ≠ [] → a.isMild = true) → d.step? a = some (t, d') → Calm d' h d'' →
    Calm d (⟨a, t⟩ :: h) d''

namespace Calm

variable {h h' : List (Entry H)}

/-- A calm history is a run. -/
theorem run (hcalm : Calm d h d') : Run d (traces h) d' := by
  induction hcalm with
  | refl d => exact .refl d
  | step _ hstep _ ih => exact .step hstep ih

theorem split (hcalm : Calm d (h ++ h') d'') : ∃ d', Calm d h d' ∧ Calm d' h' d'' := by
  induction h generalizing d with
  | nil => exact ⟨d, .refl d, hcalm⟩
  | cons x h ih =>
    cases hcalm with
    | step hmild hstep hrest =>
      obtain ⟨d', hfront, hback⟩ := ih hrest
      exact ⟨d', .step hmild hstep hfront, hback⟩

end Calm

/-- **Every publication can be brought to its end**, by calling the listeners that it still has
before it. -/
theorem exists_calm_rest (d : Desk H) :
    ∃ h d', (∀ x ∈ h, x.action = .deliver ∨ x.action = .finish) ∧ Calm d h d' ∧
      d'.underway = [] := by
  obtain ⟨bus, underway⟩ := d
  induction underway with
  | nil =>
    refine ⟨[], ⟨bus, []⟩, ?_, .refl _, rfl⟩
    intro x hx
    cases hx
  | cons p rest ihrest =>
    obtain ⟨e, waiting, total⟩ := p
    induction waiting with
    | nil =>
      obtain ⟨h, d', hsteps, hcalm, hidle⟩ := ihrest
      refine ⟨⟨.finish, .returned total⟩ :: h, d', ?_, .step (fun _ => rfl) rfl hcalm, hidle⟩
      intro x hx
      rcases List.mem_cons.1 hx with rfl | hx
      · exact .inr rfl
      · exact hsteps x hx
    | cons l waiting ihwaiting =>
      obtain ⟨h, d', hsteps, hcalm, hidle⟩ := ihwaiting
      refine ⟨⟨.deliver, .called l.id e⟩ :: h, d', ?_, .step (fun _ => rfl) rfl hcalm, hidle⟩
      intro x hx
      rcases List.mem_cons.1 hx with rfl | hx
      · exact .inl rfl
      · exact hsteps x hx

end Desk

end AssetSearch.Progress
