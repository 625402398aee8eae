/-
# Assets

One asset that a search has found, and one page of them.  What a platform reports beyond the known
fields is kept as it came.

Key definitions: `Asset`, `Asset.ofJson` and `Asset.toJson`, `SearchPage`.
-/
import AssetSearch.Json.Decode

namespace AssetSearch

/-! ## Assets -/

/-- One asset. -/
structure Asset where
  url : String
  ip : String
  port : String
  webTitle : Option String
  country : Option String
  province : Option String
  city : Option String
  server : Option String
  /-- All further fields, sorted by key. -/
  extra : List (String × Json)
  deriving Inhabited

namespace Asset

/-- How the known fields are read. -/
def reader : RecordReader (List (String × Json) → Asset) :=
  mk <$> .optional "url" "" Json.toStr
    <*> .optional "ip" "" Json.toStr
    <*> .optional "port" "" Json.toStr
    <*> .optional "web_title" none (Json.toOption Json.toStr)
    <*> .optional "country" none (Json.toOption Json.toStr)
    <*> .optional "province" none (Json.toOption Json.toStr)
    <*> .optional "city" none (Json.toOption Json.toStr)
    <*> .optional "server" none (Json.toOption Json.toStr)

/-- Whether a key names a known field. -/
def isKnown (key : String) : Bool :=
  reader.fields.any fun f => f.name == key

/-- The members with other keys, as free-form data sorted by key. -/
def collectExtra (members : List (String × Json)) : Decoded (List (String × Json)) :=
  match Json.collectMembers? (members.filter fun m => !isKnown m.1) with
  | some extra => .ok (Json.sortMembers extra)
  | none => .error .malformed

/-- Reads an asset from data: only an object will do, and all of it must be readable. -/
def ofJson : Json → Decoded Asset
  | .object members =>
    match RecordReader.checkMembers reader.fields [] members with
    | .error e => .error e
    | .ok () =>
      match collectExtra members with
      | .error e => .error e
      | .ok extra => (reader.build members).map fun make => make extra
  | j => .error (j.mismatch "struct AssetRecord")

/-- The asset as data: absent known fields are left out, further fields come last. -/
def toJson (a : Asset) : Json :=
  .object <|
    Json.member "url" (.string a.url) ++
    Json.member "ip" (.string a.ip) ++
    Json.member "port" (.string a.port) ++
    Json.memberIfSome "web_title" .string a.webTitle ++
    Json.memberIfSome "country" .string a.country ++
    Json.memberIfSome "province" .string a.province ++
    Json.memberIfSome "city" .string a.city ++
    Json.memberIfSome "server" .string a.server ++
    a.extra

end Asset

/-! ## Pages -/

/-- One page of the assets that a query matches. -/
structure SearchPage where
  /-- The number of matches on all pages. -/
  total : Nat
  results : List Asset
  deriving Inhabited

namespace SearchPage

/-- Whether the page shows nothing. -/
def isEmpty (p : SearchPage) : Bool :=
  p.results.isEmpty

/-- How a page is read. -/
def reader : RecordReader SearchPage :=
  mk <$> .required "total" Json.toNat64
    <*> .optional "results" [] (Json.toList Asset.ofJson)

/-- Reads a page from data. -/
def ofJson : Json → Decoded SearchPage :=
  reader.read "SearchResultPage"

/-- The page as data. -/
def toJson (p : SearchPage) : Json :=
  .object [("total", .ofNat p.total), ("results", .ofList Asset.toJson p.results)]

end SearchPage

end AssetSearch
