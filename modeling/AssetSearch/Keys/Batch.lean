/-
# Batches of keys

A text with one key on every line.

Key definitions: `Keys.splitLines`, `Keys.parseBatch`, `BatchOutcome`.
-/
import AssetSearch.Text.Blank

namespace AssetSearch

namespace Keys

/-- The text cut at its line feeds. -/
def splitLines : List Char → List (List Char)
  | [] => [[]]
  | c :: rest =>
    if c = '\n' then [] :: splitLines rest
    else
      match splitLines rest with
      | [] => [[c]]
      | line :: lines => (c :: line) :: lines

/-- The keys of a text: its lines without the blanks around them, as far as something is left. -/
def parseBatch (text : String) : List String :=
  ((splitLines text.toList).map Text.strip |>.filter fun s => !s.isEmpty).map String.ofList

end Keys

/-- How many keys of a batch could be added, and how many could not. -/
structure BatchOutcome where
  succeeded : Nat
  failed : Nat
  deriving DecidableEq, Repr

namespace BatchOutcome

/-- The number of keys in the batch. -/
def total (o : BatchOutcome) : Nat :=
  o.succeeded + o.failed

/-- Whether every key could be added. -/
def allSucceeded (o : BatchOutcome) : Bool :=
  o.failed == 0

/-- The outcome with one more key. -/
def count (o : BatchOutcome) (added : Bool) : BatchOutcome :=
  if added then { o with succeeded := o.succeeded + 1 } else { o with failed := o.failed + 1 }

end BatchOutcome

end AssetSearch
