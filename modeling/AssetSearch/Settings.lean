/-
# Settings

The operator's settings, which the backend keeps.  Every field has a value of its own when it is
missing from the data.
-/
import AssetSearch.Platform
import AssetSearch.Theme

namespace AssetSearch

/-- The operator's settings. -/
structure Settings where
  /-- The directory that exports are written to; empty for the backend's own choice. -/
  exportPath : String
  defaultPlatform : Platform
  pageSize : Nat
  autoValidateKeys : Bool
  theme : Theme
  language : String
  deriving DecidableEq, Repr

namespace Settings

/-- The settings of a fresh installation. -/
def initial : Settings where
  exportPath := ""
  defaultPlatform := .default
  pageSize := 20
  autoValidateKeys := false
  theme := .default
  language := "zh_CN"

/-- How settings are read. -/
def reader : RecordReader Settings :=
  mk <$> .optional "exportPath" initial.exportPath Json.toStr
    <*> .optional "defaultPlatform" initial.defaultPlatform Platform.ofJson
    <*> .optional "pageSize" initial.pageSize Json.toNat32
    <*> .optional "autoValidateApiKeys" initial.autoValidateKeys Json.toBool
    <*> .optional "theme" initial.theme Theme.ofJson
    <*> .optional "language" initial.language Json.toStr

/-- Reads settings from data. -/
def ofJson : Json → Decoded Settings :=
  reader.read "Settings"

/-- The settings as data. -/
def toJson (s : Settings) : Json :=
  .object [("exportPath", .string s.exportPath), ("defaultPlatform", s.defaultPlatform.toJson),
    ("pageSize", .ofNat s.pageSize), ("autoValidateApiKeys", .bool s.autoValidateKeys),
    ("theme", s.theme.toJson), ("language", .string s.language)]

end Settings

end AssetSearch
