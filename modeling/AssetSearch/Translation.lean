/-
# Translated queries

A query as the backend translated it for a platform, which is named by a text.
-/
import AssetSearch.Json.Decode

namespace AssetSearch

/-- A query and the platform it is written for, as named by the backend. -/
structure RawTranslation where
  platform : String
  query : String
  deriving DecidableEq, Repr

namespace RawTranslation

/-- How a translation is read. -/
def reader : RecordReader RawTranslation :=
  mk <$> .required "platform" Json.toStr <*> .required "query" Json.toStr

/-- Reads a translation from data. -/
def ofJson : Json → Decoded RawTranslation :=
  reader.read "ConversionResult"

/-- The translation as data. -/
def toJson (t : RawTranslation) : Json :=
  .object [("platform", .string t.platform), ("query", .string t.query)]

end RawTranslation

end AssetSearch
