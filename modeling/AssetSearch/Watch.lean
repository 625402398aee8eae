/-
# Watched values

A value that changes, with a count of its changes.  A receiver remembers the count it has seen and
so knows whether something is new.
-/

namespace AssetSearch

/-- The value last sent, and how many were sent before it. -/
structure Watch (α : Type) where
  value : α
  version : Nat
  deriving Repr

namespace Watch

variable {α : Type}

/-- A watched value that has not changed yet. -/
def new (value : α) : Watch α :=
  ⟨value, 0⟩

/-- Sends a value. -/
def send (w : Watch α) (value : α) : Watch α :=
  ⟨value, w.version + 1⟩

/-- Whether something was sent since a version was seen. -/
def hasChanged (w : Watch α) (seen : Nat) : Bool :=
  w.version != seen

end Watch

end AssetSearch
