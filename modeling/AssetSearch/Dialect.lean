/-
# Query dialects

Every platform has a query language of its own: the token that joins two conditions, the way a
field and its quoted value are written, and the fields that hold a province and a city.

Key definitions: `Connector.join`, `FieldStyle.render`, `Dialect`, `Platform.dialect`.
-/
import AssetSearch.Dialect.Hints

namespace AssetSearch

/-! ## Joining conditions -/

/-- The token that joins two conditions which must both hold. -/
inductive Connector where
  /-- Two ampersands. -/
  | symbolic
  /-- The word for "and". -/
  | keyword
  deriving DecidableEq, Repr

namespace Connector

/-- The token itself. -/
def token : Connector → String
  | symbolic => "&&"
  | keyword => "AND"

/-- Two conditions with the token between them, set off by single spaces. -/
def join (c : Connector) (left right : String) : String :=
  left ++ " " ++ c.token ++ " " ++ right

end Connector

/-! ## Fields and values -/

/-- How a field and its quoted value are written. -/
inductive FieldStyle where
  /-- With an equals sign. -/
  | equals
  /-- With a colon and a space. -/
  | colonSpaced
  /-- With a colon. -/
  | colon
  deriving DecidableEq, Repr

namespace FieldStyle

/-- What stands between a field and its value. -/
def separator : FieldStyle → String
  | equals => "="
  | colonSpaced => ": "
  | colon => ":"

/-- The condition that a field has a value. -/
def render (style : FieldStyle) (field value : String) : String :=
  field ++ style.separator ++ "\"" ++ value ++ "\""

end FieldStyle

/-! ## Dialects -/

/-- The query language of a platform. -/
structure Dialect where
  connector : Connector
  style : FieldStyle
  /-- The field that holds a province. -/
  provinceField : String
  /-- The field that holds a city. -/
  cityField : String
  /-- The text shown in an empty query. -/
  placeholder : String
  deriving DecidableEq, Repr

namespace Dialect

/-- The condition that an asset is in a province. -/
def provinceClause (d : Dialect) (value : String) : String :=
  d.style.render d.provinceField value

/-- The condition that an asset is in a city. -/
def cityClause (d : Dialect) (value : String) : String :=
  d.style.render d.cityField value

end Dialect

/-- The query language that a platform speaks. -/
def Platform.dialect : Platform → Dialect
  | .hunter =>
    { connector := .symbolic
      style := .equals
      provinceField := "ip.province"
      cityField := "ip.city"
      placeholder := "e.g. domain.suffix=\"test.com\" && ip.province=\"北京市\"" }
  | .fofa =>
    { connector := .symbolic
      style := .equals
      provinceField := "region"
      cityField := "city"
      placeholder := "e.g. domain=\"test.com\" && country=\"CN\"" }
  | .quake =>
    { connector := .keyword
      style := .colonSpaced
      provinceField := "province"
      cityField := "city"
      placeholder := "e.g. domain: test.com AND country: \"China\"" }
  | .daydaymap =>
    { connector := .keyword
      style := .colon
      provinceField := "province"
      cityField := "city"
      placeholder := "e.g. ip:\"1.1.1.0/24\" or domain:\"test.com\" (colon and quotes)" }

end AssetSearch
