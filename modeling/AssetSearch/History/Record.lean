/-
# Past queries

A query that was run, as the backend keeps it, and the filter over a list of them.

Key definitions: `HistoryRecord`, `HistoryRecord.platformKind`, `HistoryRecord.isExportable`,
`HistoryFilter.accepts`.
-/
import AssetSearch.Platform
import AssetSearch.Progress.Log
import AssetSearch.Text.Occurrence

namespace AssetSearch

/-! ## Records -/

/-- A query that was run. -/
structure HistoryRecord where
  id : String
  /-- The key of the platform, which may be unknown here. -/
  platform : String
  query : String
  resultsCount : Nat
  timestamp : Timestamp
  success : Bool
  errorMessage : Option String
  deriving DecidableEq

namespace HistoryRecord

/-- The platform that the query was run on. -/
def platformKind (r : HistoryRecord) : Outcome Platform :=
  Platform.parse r.platform

/-- Whether there is something to export: the query succeeded and found something. -/
def isExportable (r : HistoryRecord) : Bool :=
  r.success && 0 < r.resultsCount

/-- How a record is read. -/
def reader : RecordReader HistoryRecord :=
  mk <$> .required "id" Json.toStr
    <*> .required "platform" Json.toStr
    <*> .required "query" Json.toStr
    <*> .required "results_count" Json.toNat64
    <*> .required "timestamp" Progress.readTimestamp
    <*> .required "success" Json.toBool
    <*> .optional "error_message" none (Json.toOption Json.toStr)

/-- Reads a record from data. -/
def ofJson : Json → Decoded HistoryRecord :=
  reader.read "HistoryRecord"

/-- The record as data. -/
def toJson (r : HistoryRecord) : Json :=
  .object (Json.member "id" (.string r.id) ++ Json.member "platform" (.string r.platform) ++
    Json.member "query" (.string r.query) ++ Json.member "results_count" (.ofNat r.resultsCount) ++
    Json.member "timestamp" (.string r.timestamp.text) ++
    Json.member "success" (.bool r.success) ++
    Json.memberIfSome "error_message" .string r.errorMessage)

end HistoryRecord

/-! ## Filters -/

/-- What is shown of a list of records. -/
structure HistoryFilter where
  /-- Only records with the key of this platform. -/
  platform : Option Platform
  /-- Only records whose query or platform contains this text, whatever its case. -/
  keyword : String
  deriving DecidableEq, Repr

namespace HistoryFilter

/-- The filter that shows everything. -/
def all : HistoryFilter :=
  ⟨none, ""⟩

/-- Whether a record is of the wanted platform. -/
def acceptsPlatform (f : HistoryFilter) (r : HistoryRecord) : Bool :=
  match f.platform with
  | none => true
  | some p => r.platform == p.key

/-- Whether a record contains the wanted text. -/
def acceptsKeyword (f : HistoryFilter) (r : HistoryRecord) : Bool :=
  let keyword := Text.lower (Text.trim f.keyword)
  Text.contains (Text.lower r.query) keyword || Text.contains (Text.lower r.platform) keyword

/-- Whether a record is shown. -/
def accepts (f : HistoryFilter) (r : HistoryRecord) : Bool :=
  f.acceptsPlatform r && f.acceptsKeyword r

end HistoryFilter

end AssetSearch
