/-
# Example queries

Three queries for every platform: an address, a title in a country, and a page text on a port.
-/
import AssetSearch.Dialect

namespace AssetSearch.Query

/-- The names of the fields that the examples use. -/
structure ExampleFields where
  ip : String
  title : String
  country : String
  body : String
  port : String

/-- The fields of the examples on a platform. -/
def exampleFields : Platform → ExampleFields
  | .hunter => ⟨"ip", "web.title", "country", "web.body", "ip.port"⟩
  | _ => ⟨"ip", "title", "country", "body", "port"⟩

/-- How the examples write a field and its value. -/
def exampleStyle : Platform → FieldStyle
  | .quake => .colon
  | _ => .equals

/-- The token that joins the conditions of an example. -/
def exampleConnector : Platform → Connector
  | .quake => .keyword
  | _ => .symbolic

/-- The example queries of a platform. -/
def examples (platform : Platform) : List String :=
  let f := exampleFields platform
  let is := (exampleStyle platform).render
  let both := (exampleConnector platform).join
  [is f.ip "8.8.8.8",
    both (is f.title "登录") (is f.country "CN"),
    both (is f.body "powered by") (is f.port "80")]

end AssetSearch.Query
