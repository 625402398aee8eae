/-
# Extending a query

A fragment is joined to a query by the platform's connector; a blank query is replaced by it.  A
location filter makes one condition for the province and one for the city, as far as they are given.

Key definitions: `Query.extend`, `Query.Location`, `Query.locationClause?`, `Query.applyLocation?`.
-/
import AssetSearch.Dialect

namespace AssetSearch.Query

/-! ## Fragments -/

/-- The query extended by a fragment. -/
def extend (platform : Platform) (query fragment : String) : String :=
  if Text.blank query then fragment else platform.dialect.connector.join query fragment

/-! ## Locations -/

/-- A chosen province and city; a blank choice is none. -/
structure Location where
  province : Option String
  city : Option String
  deriving DecidableEq, Repr

/-- The condition for a location; nothing when neither part is given. -/
def locationClause? (platform : Platform) (location : Location) : Option String :=
  let d := platform.dialect
  let province := (location.province.bind Text.filled?).map d.provinceClause
  let city := (location.city.bind Text.filled?).map d.cityClause
  match province, city with
  | some p, some c => some (d.connector.join p c)
  | some p, none => some p
  | none, some c => some c
  | none, none => none

/-- The query filtered by a location: its condition alone, or joined to the query.  Nothing when no
part of the location is given. -/
def applyLocation? (platform : Platform) (query : String) (location : Location) (append : Bool) :
    Option String :=
  (locationClause? platform location).map fun clause =>
    if append then extend platform query clause else clause

end AssetSearch.Query
