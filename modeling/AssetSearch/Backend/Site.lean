/-
# The program and its backend

A backend answers commands; while it works on one it may publish events.  A site is all that the
operations of the program share: the backend's state, the trackers on their bus, the sources of
task ids, the clock, and a journal of the commands given so far.

Key definitions: `Backend`, `Site`, `Site.invoke` (one command) and `Site.nextStamp`.
-/
import AssetSearch.Backend.Command
import AssetSearch.Progress.Board
import AssetSearch.Task.Stamp

namespace AssetSearch

open Progress (Event Board Tracker)

/-! ## Backends -/

/-- What a backend gives back: the events published during the command, and the outcome. -/
structure Answer (c : Command) where
  events : List Event
  outcome : Outcome c.Result

/-- A backend with states `σ`. -/
abbrev Backend (σ : Type) : Type :=
  (c : Command) → σ → Answer c × σ

/-- What a backend that cannot cancel exports says to the command. -/
def cannotCancel : Failure :=
  .unsupported "cancel_export"

/-! ## Sites -/

/-- What the operations share.  An entry of the journal is a command and the board at the time it
was given. -/
structure Site (σ : Type) where
  backend : σ
  board : Board
  /-- The last stamp of every source of task ids. -/
  stamps : List Nat
  /-- What the clock shows, in milliseconds. -/
  clock : Int
  journal : List (Command × Board)

namespace Site

variable {σ : Type}

/-- Gives a command: it is entered into the journal, and the events published during it reach the
trackers in order. -/
def invoke (b : Backend σ) (c : Command) (s : Site σ) : Outcome c.Result × Site σ :=
  let (answer, backend) := b c s.backend
  (answer.outcome,
    { s with
      backend := backend
      board := s.board.publishAll answer.events
      journal := s.journal ++ [(c, s.board)] })

/-- Takes the next stamp of a source. -/
def nextStamp (source : Nat) (s : Site σ) : Nat × Site σ :=
  let stamp := Stamp.next (s.stamps.getD source 0) s.clock
  (stamp, { s with stamps := s.stamps.set source stamp })

/-- The tracker with a number. -/
def tracker (s : Site σ) (i : Nat) : Tracker :=
  s.board.tracker i

/-- Changes the tracker with a number. -/
def update (s : Site σ) (i : Nat) (f : Tracker → Tracker) : Site σ :=
  { s with board := s.board.update i f }

/-- Puts the display of a tracker away unless its task is running; also whether it did. -/
def closeTracker (s : Site σ) (i : Nat) : Bool × Site σ :=
  ((s.tracker i).close.1, s.update i fun t => t.close.2)

end Site

end AssetSearch
