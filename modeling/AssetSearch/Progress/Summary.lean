/-
# Counters of a task

A task counts its pages and its results; a summary lists the counters that are known.
-/
import AssetSearch.Json.Decode

namespace AssetSearch.Progress

/-- What is counted. -/
inductive Counter where
  | totalPages
  | currentPage
  | totalResults
  | fetched
  deriving DecidableEq, Repr

namespace Counter

/-- Every counter, in the order in which a summary lists them. -/
def all : List Counter :=
  [totalPages, currentPage, totalResults, fetched]

/-- The name of a counter in data. -/
def key : Counter → String
  | totalPages => "total_pages"
  | currentPage => "current_page"
  | totalResults => "total_results"
  | fetched => "fetched"

/-- The name of a counter as it is shown. -/
def label : Counter → String
  | totalPages => "Total pages"
  | currentPage => "Current page"
  | totalResults => "Total results"
  | fetched => "Fetched"

/-- The counter as data. -/
def toJson (c : Counter) : Json :=
  .string c.key

/-- Reads a counter from data. -/
def ofJson : Json → Decoded Counter :=
  Json.toChoice (all.map fun c => (c.key, c))

end Counter

/-- A counter and its value. -/
structure SummaryItem where
  counter : Counter
  value : Nat
  deriving DecidableEq, Repr

namespace SummaryItem

/-- The item as data. -/
def toJson (i : SummaryItem) : Json :=
  .object [("counter", i.counter.toJson), ("value", .ofNat i.value)]

/-- How an item is read. -/
def reader : RecordReader SummaryItem :=
  mk <$> .required "counter" Counter.ofJson <*> .required "value" Json.toNat64

/-- Reads an item from data. -/
def ofJson : Json → Decoded SummaryItem :=
  reader.read "SummaryItem"

end SummaryItem

end AssetSearch.Progress
