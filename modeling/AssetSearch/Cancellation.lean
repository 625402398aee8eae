/-
# Cancellation

Tokens that can be cancelled once and for all, and tasks that wait: for an amount of time unless
their token is cancelled before, or for the cancellation itself.

Key definitions: `Cancellation.Room`, with `cancel`, `sleep`, `await` and `elapse`.
-/

namespace AssetSearch.Cancellation

/-- What a task waits for. -/
inductive Pause where
  /-- The given time, unless the token is cancelled. -/
  | sleep (deadline : Nat)
  /-- The cancellation of the token. -/
  | untilCancelled
  deriving DecidableEq, Repr

/-- How waiting ended. -/
inductive Ending where
  /-- The time is over. -/
  | elapsed
  /-- The token was cancelled during or before the sleep. -/
  | interrupted
  /-- The awaited cancellation came. -/
  | cancelled
  deriving DecidableEq, Repr

/-- A task that waits, or has waited, on a token. -/
structure Waiter where
  token : Nat
  pause : Pause
  ending : Option Ending
  deriving DecidableEq, Repr

/-- The tokens that are cancelled, the waiting tasks, and the time in milliseconds. -/
structure Room where
  cancelled : List Nat
  waiters : List Waiter
  now : Nat
  deriving DecidableEq, Repr

namespace Room

/-- No token is cancelled and nothing waits. -/
def empty : Room :=
  ⟨[], [], 0⟩

/-- Whether a token is cancelled. -/
def isCancelled (r : Room) (token : Nat) : Bool :=
  r.cancelled.contains token

/-- How a task's waiting ends by now, if it does.  A cancelled token goes before the clock. -/
def ending? (r : Room) (w : Waiter) : Option Ending :=
  match w.pause with
  | .sleep deadline =>
    if r.isCancelled w.token then some .interrupted
    else if deadline ≤ r.now then some .elapsed
    else none
  | .untilCancelled => if r.isCancelled w.token then some .cancelled else none

/-- Lets every task go on as far as it can. -/
def settle (r : Room) : Room :=
  { r with waiters := r.waiters.map fun w => { w with ending := w.ending <|> r.ending? w } }

/-- Cancels a token. -/
def cancel (r : Room) (token : Nat) : Room :=
  { r with cancelled := token :: r.cancelled }.settle

/-- Starts a task that waits. -/
def start (r : Room) (token : Nat) (pause : Pause) : Room :=
  let waiter : Waiter := ⟨token, pause, none⟩
  { r with waiters := r.waiters ++ [waiter] }.settle

/-- Starts a task that sleeps unless its token is cancelled. -/
def sleep (r : Room) (token ms : Nat) : Room :=
  r.start token (.sleep (r.now + ms))

/-- Starts a task that waits for the cancellation of a token. -/
def await (r : Room) (token : Nat) : Room :=
  r.start token .untilCancelled

/-- Lets time pass. -/
def elapse (r : Room) (ms : Nat) : Room :=
  { r with now := r.now + ms }.settle

end Room

end AssetSearch.Cancellation
