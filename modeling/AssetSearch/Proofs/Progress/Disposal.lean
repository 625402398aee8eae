/-
# What an ended subscription still gets

The listeners of an event are taken when its publication starts, so that the end of a subscription
comes too late for the publications that are going on.  Just those that still have the subscription
before them call it once more; no later one does.

Key definition: `Desk.Forgets`.  Key statements: `Forgets.received_append_due`,
`called_after_disposal_iff`.
-/
import AssetSearch.Proofs.Progress.Desks

namespace AssetSearch.Progress.Desk

variable {H : Type} {d d' : Desk H} {id : Nat}

/-! ## Subscriptions that are over -/

/-- A subscription was made and is not among the listeners any more. -/
structure Forgets (d : Desk H) (id : Nat) : Prop where
  made : id < d.bus.nextId
  gone : ∀ l ∈ d.bus.listeners, l.id ≠ id

theorem forgets_dispose (h : id < d.bus.nextId) : (d.dispose id).Forgets id where
  made := h
  gone := by
    intro l hl
    simpa using (List.mem_filter.1 hl).2

namespace Forgets

variable {a : Action H} {t : Trace}

/-- It does not come back. -/
theorem moves (hd : d.Forgets id) (h : Moves d a t d') : d'.Forgets id := by
  refine ⟨Nat.lt_of_lt_of_le hd.made h.nextId_le, ?_⟩
  cases h with
  | subscribe d taskFilter handler =>
    intro l hl
    rcases List.mem_append.1 hl with hl | hl
    · exact hd.gone l hl
    · -- a new subscription has a new number
      rw [List.mem_singleton.1 hl]
      exact Nat.ne_of_gt hd.made
  | dispose d other =>
    intro l hl
    exact hd.gone l (List.mem_filter.1 hl).1
  | _ => exact hd.gone

/-- No later publication takes it. -/
theorem eventsOf_taken (hd : d.Forgets id) (a : Action H) : eventsOf id (d.taken a) = [] := by
  cases a with
  | publish e =>
    rw [eventsOf_eq_nil_iff]
    intro c hc
    obtain ⟨l, hl, rfl⟩ := List.mem_map.1 hc
    exact hd.gone l (List.mem_filter.1 hl).1
  | _ => rfl

/-- **What is still received is what was due.** -/
theorem received_append_due {ts : List Trace} (hd : d.Forgets id) (h : Run d ts d') :
    received id ts ++ eventsOf id d'.due = eventsOf id d.due := by
  induction h with
  | refl d => rfl
  | step hstep _ ih =>
    have hmove := moves_of_step? hstep
    have hkept := congrArg (eventsOf id) hmove.calls_append_due
    rw [eventsOf_append, eventsOf_append, hd.eventsOf_taken, List.nil_append] at hkept
    rw [received_cons, List.append_assoc, ih (hd.moves hmove)]
    exact hkept

end Forgets

/-! ## The result -/

/-- **Ended subscriptions are called again just by the publications that still have them before
them.**  After a subscription was ended, its handler is never started again, whatever happens, just
if none of the publications underway at that time still has it before it; and in any case it
receives no other events than theirs, in their order. -/
theorem called_after_disposal_iff {before : List Trace} (hrun : Run .empty before d)
    (hmade : .subscribed id ∈ before) :
    ((∀ after d', Run (d.dispose id) after d' → ∀ e, .called id e ∉ after) ↔
      ∀ p ∈ d.underway, ∀ l ∈ p.waiting, l.id ≠ id) ∧
    ∀ after d', Run (d.dispose id) after d' →
      received id after ++ eventsOf id d'.due = eventsOf id d.due := by
  have hforgets : (d.dispose id).Forgets id := forgets_dispose (hrun.lt_of_subscribed hmade)
  have hdue : eventsOf id d.due = [] ↔ ∀ p ∈ d.underway, ∀ l ∈ p.waiting, l.id ≠ id := by
    rw [eventsOf_eq_nil_iff]
    constructor
    · intro h p hp l hl
      exact h (l.id, p.event) (List.mem_flatMap.2 ⟨p, hp, List.mem_map.2 ⟨l, hl, rfl⟩⟩)
    · intro h c hc
      obtain ⟨p, hp, hc⟩ := List.mem_flatMap.1 hc
      obtain ⟨l, hl, rfl⟩ := List.mem_map.1 hc
      exact h p hp l hl
  refine ⟨?_, fun after d' hafter => hforgets.received_append_due hafter⟩
  rw [← hdue]
  constructor
  · -- run the publications underway to their end: nothing is due then, so all of it was received
    intro hnever
    obtain ⟨h, d', -, hcalm, hidle⟩ := exists_calm_rest (d.dispose id)
    have hnone : received id (traces h) = [] := by
      rw [received, eventsOf_eq_nil_iff]
      rintro ⟨other, e⟩ hc rfl
      exact hnever _ d' hcalm.run e (mem_calls_iff.1 hc)
    have hrest := hforgets.received_append_due hcalm.run
    rw [hnone, due, hidle] at hrest
    exact hrest.symm
  · intro hnone after d' hafter e hmem
    have hrest := hforgets.received_append_due hafter
    rw [show (d.dispose id).due = d.due from rfl, hnone] at hrest
    have hreceived := (List.append_eq_nil_iff.1 hrest).1
    exact eventsOf_eq_nil_iff.1 hreceived (id, e) (mem_calls_iff.2 hmem) rfl

/-! ## A handler that ends the subscription behind it -/

/-- An event for two listeners. -/
def report : Event :=
  .new "t" (.zero false) .running "1"

/-- Two subscriptions are made, and the handler of the first one is called with an event. -/
def halfway : List Trace :=
  [.subscribed 0, .subscribed 1, .started report, .called 0 report]

/-- The second one is still to be called. -/
def midway : Desk Unit :=
  ⟨⟨2, [⟨0, none, ()⟩, ⟨1, none, ()⟩]⟩, [⟨report, [⟨1, none, ()⟩], 2⟩]⟩

theorem run_halfway {ts : List Trace} {d : Desk Unit} (h : Run midway ts d) :
    Run .empty (halfway ++ ts) d :=
  .step (a := .subscribe none ()) rfl <| .step (a := .subscribe none ()) rfl <|
    .step (a := .publish report) rfl <| .step (a := .deliver) rfl h

/-- The first handler cannot keep the second one from being called, by ending its subscription. -/
theorem midway_calls_second :
    Run .empty halfway midway ∧ .subscribed 1 ∈ halfway ∧
      ¬ ∀ after d', Run (midway.dispose 1) after d' → ∀ e, .called 1 e ∉ after := by
  have hrun : Run .empty halfway midway := run_halfway (.refl midway)
  have hmade : .subscribed 1 ∈ halfway := by simp [halfway]
  refine ⟨hrun, hmade, ?_⟩
  intro hnever
  have hnone := (called_after_disposal_iff hrun hmade).1.1 hnever
  exact hnone _ List.mem_cons_self _ List.mem_cons_self rfl

/-- So the handler of a subscription that was ended may be started again. -/
theorem called_after_disposal :
    ¬ ∀ (before after : List Trace) (id : Nat) (d : Desk Unit),
      Run .empty (before ++ .disposed id :: after) d → .subscribed id ∈ before →
        ∀ e, .called id e ∉ after := by
  intro hnever
  have hrest : Run midway [.disposed 1, .called 1 report]
      ⟨(midway.dispose 1).bus, [⟨report, [], 2⟩]⟩ :=
    .step (a := .dispose 1) rfl <| .step (a := .deliver) rfl <| .refl _
  have hmade : .subscribed 1 ∈ halfway := by simp [halfway]
  exact hnever halfway [.called 1 report] 1 _ (run_halfway hrest) hmade report List.mem_cons_self

end AssetSearch.Progress.Desk
