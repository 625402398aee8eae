/-
# Trackers on a bus

The trackers of a program, known by their numbers, and the bus that some of them listen to.  An
attached tracker takes over the events of the task that it shows and leaves all others.

Key definitions: `Board`, `Board.tracker`, `Board.update`, `Board.attach`, `Board.publish` and
`Board.elapse`.
-/
import AssetSearch.Progress.Bus
import AssetSearch.Progress.Tracker

namespace AssetSearch.Progress

/-- The trackers and the bus; the handler of a subscription is the number of a tracker. -/
structure Board where
  bus : Bus Nat
  trackers : List Tracker

namespace Board

/-- A board with some trackers, none of them attached. -/
def new (trackers : List Tracker) : Board :=
  ⟨.empty, trackers⟩

/-- The tracker with a number. -/
def tracker (b : Board) (i : Nat) : Tracker :=
  b.trackers.getD i default

/-- Changes the tracker with a number. -/
def update (b : Board) (i : Nat) (f : Tracker → Tracker) : Board :=
  { b with trackers := b.trackers.modify i f }

/-- Adds a tracker; its number is the number of trackers before. -/
def add (b : Board) (t : Tracker) : Board :=
  { b with trackers := b.trackers ++ [t] }

/-- Lets a tracker listen to all events; also the id of the subscription. -/
def attach (b : Board) (i : Nat) : Nat × Board :=
  let (id, bus) := b.bus.subscribe none i
  (id, { b with bus := bus })

/-- Ends a subscription. -/
def dispose (b : Board) (id : Nat) : Board :=
  { b with bus := b.bus.dispose id }

/-- Publishes an event to the attached trackers; also the number of subscriptions reached. -/
def publish (b : Board) (e : Event) : Nat × Board :=
  b.bus.publish (fun i e board => board.update i fun t => t.offer e) e b

/-- Publishes events one after the other. -/
def publishAll (b : Board) (es : List Event) : Board :=
  es.foldl (fun board e => (board.publish e).2) b

/-- Lets time pass for all trackers. -/
def elapse (b : Board) (ms : Nat) : Board :=
  { b with trackers := b.trackers.map fun t => t.elapse ms }

end Board

end AssetSearch.Progress
