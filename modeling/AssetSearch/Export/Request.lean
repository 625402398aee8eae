/-
# Export requests

What is to be exported: a query, how many pages of which size, and from what time.  Dates count only
when the time range is a custom one and both of them are given.

Key definitions: `ExportRequest`, `ExportRequest.window?`, `ExportRequest.check` (the guards that
every export passes first), `pagesFor`.
-/
import AssetSearch.Calendar.Date
import AssetSearch.Failure
import AssetSearch.Json.Decode
import AssetSearch.Text.Blank

namespace AssetSearch

/-! ## Time ranges -/

/-- From what time results are taken. -/
inductive TimeRange where
  | all
  | lastDay
  | lastWeek
  | lastMonth
  | lastQuarter
  | lastYear
  | custom
  deriving DecidableEq, Repr, Inhabited

namespace TimeRange

/-- Every time range. -/
def every : List TimeRange :=
  [all, lastDay, lastWeek, lastMonth, lastQuarter, lastYear, custom]

/-- The name of a time range in data. -/
def key : TimeRange → String
  | all => "all"
  | lastDay => "1d"
  | lastWeek => "7d"
  | lastMonth => "30d"
  | lastQuarter => "90d"
  | lastYear => "365d"
  | custom => "custom"

/-- The time range as data. -/
def toJson (t : TimeRange) : Json :=
  .string t.key

/-- Reads a time range from data. -/
def ofJson : Json → Decoded TimeRange :=
  Json.toChoice (every.map fun t => (t.key, t))

end TimeRange

/-! ## Requests -/

/-- What is to be exported. -/
structure ExportRequest where
  query : String
  pages : Nat
  pageSize : Nat
  timeRange : TimeRange
  startDate : Option Date
  endDate : Option Date
  deriving DecidableEq

namespace ExportRequest

/-- An export from all time. -/
def new (query : String) (pages pageSize : Nat) : ExportRequest :=
  ⟨query, pages, pageSize, .all, none, none⟩

/-- The request with another time range. -/
def withTimeRange (r : ExportRequest) (range : TimeRange) : ExportRequest :=
  { r with timeRange := range }

/-- The request for the days from one date to another. -/
def withCustomRange (r : ExportRequest) (first last : Date) : ExportRequest :=
  { r with timeRange := .custom, startDate := some first, endDate := some last }

/-- The first and the last day, if the request has a custom range with both of them. -/
def window? (r : ExportRequest) : Option (Date × Date) :=
  match r.timeRange, r.startDate, r.endDate with
  | .custom, some first, some last => some (first, last)
  | _, _, _ => none

/-- The guards of every export: there is a query, a page and a page size. -/
def check (r : ExportRequest) : Outcome Unit :=
  if Text.blank r.query then .error (.emptyInput "query")
  else if r.pages = 0 then .error .zeroPages
  else if r.pageSize = 0 then .error (.invalidField "page_size" "page size must be positive")
  else .ok ()

end ExportRequest

/-! ## Counting pages -/

/-- The pages that hold all results: as many as it takes, up to the largest number of 32 bits, and
none when there are no results or no room on a page. -/
def pagesFor (results pageSize : Nat) : Nat :=
  if pageSize = 0 then 0 else min ((results + pageSize - 1) / pageSize) (UInt32.size - 1)

end AssetSearch
