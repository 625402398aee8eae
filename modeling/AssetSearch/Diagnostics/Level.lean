/-
# Levels of diagnostic output

How detailed a message is, and the texts that say up to which level messages are written.

Key definitions: `Diagnostics.Level`, `Level.rank` and `Diagnostics.rank?`.
-/

namespace AssetSearch.Diagnostics

/-- How detailed a message is. -/
inductive Level where
  | error
  | warn
  | info
  | debug
  | trace
  deriving DecidableEq, Repr

namespace Level

/-- Every level, from the least detailed. -/
def all : List Level :=
  [error, warn, info, debug, trace]

/-- The level as a number; nothing is written below 1. -/
def rank : Level → Nat
  | error => 1
  | warn => 2
  | info => 3
  | debug => 4
  | trace => 5

end Level

/-- The number that digits spell, perhaps after a plus sign. -/
def number? (s : List Char) : Option Nat :=
  let digits :=
    match s with
    | '+' :: rest => rest
    | rest => rest
  if !digits.isEmpty && digits.all Char.isDigit then
    some (digits.foldl (fun n c => n * 10 + (c.toNat - '0'.toNat)) 0)
  else none

/-- The most detailed rank that a text allows: a number up to 5, a level by its name, or `off`. -/
def rank? (s : List Char) : Option Nat :=
  match number? s with
  | some n => if n ≤ Level.trace.rank then some n else none
  | none =>
    match String.ofList (s.map Char.toLower) with
    | "off" => some 0
    | "error" => some Level.error.rank
    | "warn" => some Level.warn.rank
    | "info" => some Level.info.rank
    | "debug" => some Level.debug.rank
    | "trace" => some Level.trace.rank
    | _ => none

end AssetSearch.Diagnostics
