/-
# Composing a query

The text of one query field, the platform it is written for, and the suggestions for what is being
typed.  Typing computes the suggestions anew; inserting a fragment or a location changes the text
only; changing the platform drops both.

Key definitions: `Composer`, `Composer.setText`, `Composer.select`, `Composer.applyLocation`,
`Composer.switchPlatform`.
-/
import AssetSearch.Query.Clause
import AssetSearch.Query.Suggestion

namespace AssetSearch

/-- A query that is being written. -/
structure Composer where
  platform : Platform
  text : String
  suggestions : List Hint
  deriving DecidableEq, Repr

namespace Composer

/-- An empty query for a platform. -/
def new (platform : Platform) : Composer :=
  ⟨platform, "", []⟩

/-- Replaces the text, as by typing. -/
def setText (c : Composer) (text : String) : Composer :=
  { c with text := text, suggestions := Query.suggestions c.platform text }

/-- Inserts a fragment. -/
def select (c : Composer) (fragment : String) : Composer :=
  { c with text := Query.extend c.platform c.text fragment }

/-- Filters by a location; also whether there was one. -/
def applyLocation (c : Composer) (location : Query.Location) (append : Bool) : Bool × Composer :=
  match Query.applyLocation? c.platform c.text location append with
  | some text => (true, { c with text := text })
  | none => (false, c)

/-- Starts anew for another platform. -/
def switchPlatform (_ : Composer) (platform : Platform) : Composer :=
  new platform

/-- Starts anew. -/
def clear (c : Composer) : Composer :=
  new c.platform

/-- The text shown while the query is empty. -/
def placeholder (c : Composer) : String :=
  c.platform.dialect.placeholder

end Composer

end AssetSearch
