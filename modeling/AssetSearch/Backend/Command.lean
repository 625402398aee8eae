/-
# Commands of the backend

Everything that the program asks of its backend: searches, exports, the history, translations, keys
and settings.  Every command has a name, parameters as data, and a result of its own type.

Key definitions: `Command`, `Command.name`, `Command.params`, `Command.Result` and
`Command.decodeResult`.
-/
import AssetSearch.Asset
import AssetSearch.Export.Request
import AssetSearch.History.Record
import AssetSearch.Keys.Basic
import AssetSearch.Settings
import AssetSearch.Translation

namespace AssetSearch

/-! ## Commands -/

/-- What a search asks for: one page of the matches of a query. -/
structure SearchRequest where
  platform : Platform
  query : String
  /-- Counted from 1. -/
  page : Nat
  pageSize : Nat
  deriving DecidableEq, Repr

/-- A command of the backend. -/
inductive Command where
  | search (request : SearchRequest)
  /-- An export from one platform, which reports on a task. -/
  | exportPlatform (taskId : String) (platform : Platform) (request : ExportRequest)
  /-- An export from every platform, which sends no events. -/
  | exportAll (request : ExportRequest)
  | cancelExport (taskId : String)
  | history
  | deleteHistory (id : String)
  | clearHistory
  /-- Writes the history to a file in a directory. -/
  | writeHistory (directory : String)
  | supportedPlatforms
  | validateQuery (query : String) (platform : Platform)
  | convert (query : String) (source target : Platform)
  | convertToAll (query : String) (source : Platform)
  | keys (platform : Platform)
  | addKey (platform : Platform) (key : String) (email : Option String)
  | deleteKey (platform : Platform) (key : String) (email : Option String)
  | validateKey (platform : Platform) (key : String) (email : Option String)
  | settings
  | saveSettings (settings : Settings)
  deriving DecidableEq

namespace Command

/-- The name by which the backend knows a command. -/
def name : Command → String
  | search _ => "search_assets"
  | exportPlatform .. => "export_results_with_progress"
  | exportAll _ => "export_all_platforms"
  | cancelExport _ => "cancel_export"
  | history => "get_query_history"
  | deleteHistory _ => "delete_query_history"
  | clearHistory => "clear_all_history"
  | writeHistory _ => "export_query_history"
  | supportedPlatforms => "get_supported_platforms"
  | validateQuery .. => "validate_query_syntax"
  | convert .. => "convert_query"
  | convertToAll .. => "convert_query_to_all"
  | keys _ => "get_api_keys"
  | addKey .. => "add_api_key"
  | deleteKey .. => "delete_api_key"
  | validateKey .. => "validate_api_key"
  | settings => "get_settings"
  | saveSettings _ => "save_settings"

/-- The task that a command reports on or acts on; empty if there is none. -/
def taskId : Command → String
  | exportPlatform id _ _ => id
  | cancelExport id => id
  | _ => ""

/-! ## Parameters -/

/-- The parameters that every export has. -/
def exportParams (r : ExportRequest) : List (String × Json) :=
  [("query", .string r.query), ("pages", .ofNat r.pages), ("pageSize", .ofNat r.pageSize),
    ("timeRange", r.timeRange.toJson),
    ("startDate", .ofOption (fun w => .string w.1.text) r.window?),
    ("endDate", .ofOption (fun w => .string w.2.text) r.window?)]

/-- The parameters of a command on a key. -/
def keyParams (platform : Platform) (key : String) (email : Option String) :
    List (String × Json) :=
  [("platform", platform.toJson), ("apiKey", .string key), ("email", .ofOption .string email)]

/-- The settings as a parameter: like all free-form data with sorted keys. -/
def sortedSettings (s : Settings) : Json :=
  (s.toJson.collect?).getD .null

/-- The parameters of a command. -/
def members : Command → List (String × Json)
  | search r => [("platform", r.platform.toJson), ("query", .string r.query),
      ("page", .ofNat r.page), ("pageSize", .ofNat r.pageSize)]
  | exportPlatform id platform r =>
    exportParams r ++ [("taskId", .string id), ("platform", platform.toJson)]
  | exportAll r => exportParams r
  | cancelExport id => [("taskId", .string id)]
  | history => []
  | deleteHistory id => [("id", .string id)]
  | clearHistory => []
  | writeHistory directory => [("exportPath", .string directory)]
  | supportedPlatforms => []
  | validateQuery query platform => [("query", .string query), ("platform", platform.toJson)]
  | convert query source target => [("query", .string query), ("fromPlatform", source.toJson),
      ("toPlatform", target.toJson)]
  | convertToAll query source => [("query", .string query), ("fromPlatform", source.toJson)]
  | keys platform => [("platform", platform.toJson)]
  | addKey platform key email => keyParams platform key email
  | deleteKey platform key email => keyParams platform key email
  | validateKey platform key email => keyParams platform key email
  | settings => []
  | saveSettings s => [("settings", sortedSettings s)]

/-- The parameters of a command as data with sorted keys. -/
def params (c : Command) : Json :=
  .record c.members

/-! ## Results -/

/-- What a command gives back. -/
def Result : Command → Type
  | search _ => SearchPage
  | exportPlatform .. => String
  | exportAll _ => Unit
  | cancelExport _ => Unit
  | history => List HistoryRecord
  | deleteHistory _ => Unit
  | clearHistory => Unit
  | writeHistory _ => String
  | supportedPlatforms => List String
  | validateQuery .. => Bool
  | convert .. => String
  | convertToAll .. => List RawTranslation
  | keys _ => KeyList
  | addKey .. => Unit
  | deleteKey .. => Unit
  | validateKey .. => KeyVerdict
  | settings => Settings
  | saveSettings _ => Unit

/-- Reads the result of a command from data; one that gives nothing back accepts everything. -/
def decodeResult : (c : Command) → Json → Decoded c.Result
  | search _ => SearchPage.ofJson
  | exportPlatform .. => Json.toStr
  | exportAll _ => fun _ => .ok ()
  | cancelExport _ => fun _ => .ok ()
  | history => Json.toList HistoryRecord.ofJson
  | deleteHistory _ => fun _ => .ok ()
  | clearHistory => fun _ => .ok ()
  | writeHistory _ => Json.toStr
  | supportedPlatforms => Json.toList Json.toStr
  | validateQuery .. => Json.toBool
  | convert .. => Json.toStr
  | convertToAll .. => Json.toList RawTranslation.ofJson
  | keys _ => KeyList.ofJson
  | addKey .. => fun _ => .ok ()
  | deleteKey .. => fun _ => .ok ()
  | validateKey .. => KeyVerdict.ofJson
  | settings => Settings.ofJson
  | saveSettings _ => fun _ => .ok ()

end Command

end AssetSearch
