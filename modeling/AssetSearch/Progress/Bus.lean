/-
# The event bus

Listeners subscribe to all events or to those of one task; a published event goes to every listener
that it concerns, in the order of their subscription.

Key definitions: `Bus`, `Bus.subscribe`, `Bus.dispose`, `Bus.recipients` and `Bus.publish`.
-/
import AssetSearch.Progress.Event
import AssetSearch.Text.Described

namespace AssetSearch.Progress

/-- A subscription, known by its id, with what its owner does about events. -/
structure Listener (H : Type) where
  id : Nat
  /-- Only events of this task. -/
  taskFilter : Option String
  handler : H
  deriving DecidableEq, Repr

namespace Listener

variable {H : Type}

/-- Whether an event concerns the listener. -/
def wants (l : Listener H) (e : Event) : Bool :=
  match l.taskFilter with
  | none => true
  | some task => task == e.taskId

end Listener

/-- The live subscriptions, in the order in which they were made. -/
structure Bus (H : Type) where
  nextId : Nat
  listeners : List (Listener H)
  deriving DecidableEq, Repr

namespace Bus

variable {H : Type}

/-- A bus without listeners. -/
def empty : Bus H :=
  ⟨0, []⟩

/-- Adds a subscription; also its id. -/
def subscribe (b : Bus H) (taskFilter : Option String) (handler : H) : Nat × Bus H :=
  (b.nextId, ⟨b.nextId + 1, b.listeners ++ [⟨b.nextId, taskFilter, handler⟩]⟩)

/-- Ends the subscription with an id. -/
def dispose (b : Bus H) (id : Nat) : Bus H :=
  { b with listeners := b.listeners.filter fun l => l.id ≠ id }

/-- The number of live subscriptions. -/
def count (b : Bus H) : Nat :=
  b.listeners.length

/-- The listeners that an event concerns. -/
def recipients (b : Bus H) (e : Event) : List (Listener H) :=
  b.listeners.filter fun l => l.wants e

/-- Publishes an event whose handlers leave the bus alone; also how many there were. -/
def publish {σ : Type} (b : Bus H) (act : H → Event → σ → σ) (e : Event) (s : σ) : Nat × σ :=
  let rs := b.recipients e
  (rs.length, rs.foldl (fun s l => act l.handler e s) s)

/-- The bus in diagnostics. -/
def describe (b : Bus H) : String :=
  Text.described "ProgressBus" [("subscribers", toString b.count)] true

/-- A subscription in diagnostics. -/
def describeSubscription (id : Nat) : String :=
  Text.described "Subscription" [("id", toString id)] true

end Bus

end AssetSearch.Progress
