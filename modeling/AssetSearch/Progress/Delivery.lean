/-
# Deliveries in progress

While an event is being delivered the handlers may themselves subscribe, end subscriptions and
publish.  The listeners of an event are taken when its publication starts: one whose subscription
ends during the delivery is still called, and one that is added is not.

Key definitions: `Delivery`, `Desk` (a bus with the deliveries in progress), its steps
`Desk.publish`, `Desk.deliver?` and `Desk.finish?`, and `Desk.Run`.
-/
import AssetSearch.Progress.Bus

namespace AssetSearch.Progress

variable {H : Type}

/-- The publication of an event that is still going on. -/
structure Delivery (H : Type) where
  event : Event
  /-- The listeners that have not been called yet. -/
  waiting : List (Listener H)
  /-- The number of listeners at the start. -/
  total : Nat

/-- A bus and the deliveries in progress, the one started last first. -/
structure Desk (H : Type) where
  bus : Bus H
  underway : List (Delivery H)

namespace Desk

/-- A bus without listeners on which nothing is being delivered. -/
def empty : Desk H :=
  ⟨.empty, []⟩

/-- Adds a subscription; also its id. -/
def subscribe (d : Desk H) (taskFilter : Option String) (handler : H) : Nat × Desk H :=
  let (id, bus) := d.bus.subscribe taskFilter handler
  (id, { d with bus := bus })

/-- Ends a subscription. -/
def dispose (d : Desk H) (id : Nat) : Desk H :=
  { d with bus := d.bus.dispose id }

/-- Starts the publication of an event. -/
def publish (d : Desk H) (e : Event) : Desk H :=
  let rs := d.bus.recipients e
  { d with underway := ⟨e, rs, rs.length⟩ :: d.underway }

/-- Calls the next listener of the innermost delivery: the listener, the event, and what follows. -/
def deliver? (d : Desk H) : Option (Listener H × Event × Desk H) :=
  match d.underway with
  | ⟨e, l :: waiting, total⟩ :: rest =>
    some (l, e, { d with underway := ⟨e, waiting, total⟩ :: rest })
  | _ => none

/-- Ends the innermost delivery once all of its listeners have been called: their number, and what
follows. -/
def finish? (d : Desk H) : Option (Nat × Desk H) :=
  match d.underway with
  | ⟨_, [], total⟩ :: rest => some (total, { d with underway := rest })
  | _ => none

/-! ## Runs -/

/-- A step: an operation from outside or from a handler, or the progress of a delivery. -/
inductive Action (H : Type) where
  | subscribe (taskFilter : Option String) (handler : H)
  | dispose (id : Nat)
  | publish (e : Event)
  | deliver
  | finish

/-- What a step shows. -/
inductive Trace where
  /-- A subscription was made. -/
  | subscribed (id : Nat)
  /-- A subscription was ended. -/
  | disposed (id : Nat)
  /-- A publication started. -/
  | started (e : Event)
  /-- The handler of a subscription was called. -/
  | called (id : Nat) (e : Event)
  /-- A publication returned the number of listeners. -/
  | returned (total : Nat)
  deriving DecidableEq

/-- One step, if it is possible. -/
def step? (d : Desk H) : Action H → Option (Trace × Desk H)
  | .subscribe taskFilter handler =>
    let (id, d') := d.subscribe taskFilter handler
    some (.subscribed id, d')
  | .dispose id => some (.disposed id, d.dispose id)
  | .publish e => some (.started e, d.publish e)
  | .deliver => d.deliver?.map fun (l, e, d') => (.called l.id e, d')
  | .finish => d.finish?.map fun (total, d') => (.returned total, d')

/-- A run: the steps lead from one desk to another and show a list of traces. -/
inductive Run : Desk H → List Trace → Desk H → Prop where
  | refl (d : Desk H) : Run d [] d
  | step {d d' d'' : Desk H} {a : Action H} {t : Trace} {ts : List Trace} :
    d.step? a = some (t, d') → Run d' ts d'' → Run d (t :: ts) d''

end Desk

end AssetSearch.Progress
