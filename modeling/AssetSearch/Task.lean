/-
# Tasks

A long-running operation with an id: a search on a platform, or an export from one platform or from
all of them.
-/
import AssetSearch.Platform

namespace AssetSearch

/-- What a task does. -/
inductive TaskKind where
  | search
  | exporting
  deriving DecidableEq, Repr

namespace TaskKind

/-- The name of a kind in data. -/
def key : TaskKind → String
  | search => "search"
  | exporting => "export"

/-- The kind as data. -/
def toJson (k : TaskKind) : Json :=
  .string k.key

/-- Reads a kind from data. -/
def ofJson : Json → Decoded TaskKind :=
  Json.toChoice [("search", search), ("export", exporting)]

end TaskKind

/-- An identified operation. -/
structure Task where
  id : String
  kind : TaskKind
  /-- The platform, unless the operation spans all of them. -/
  platform : Option Platform
  query : String
  deriving DecidableEq, Repr

namespace Task

/-- How a task is read. -/
def reader : RecordReader Task :=
  mk <$> .required "taskId" Json.toStr
    <*> .required "kind" TaskKind.ofJson
    <*> .optional "platform" none (Json.toOption Platform.ofJson)
    <*> .required "query" Json.toStr

/-- Reads a task from data. -/
def ofJson : Json → Decoded Task :=
  reader.read "Task"

/-- The task as data. -/
def toJson (t : Task) : Json :=
  .object (Json.member "taskId" (.string t.id) ++ Json.member "kind" t.kind.toJson ++
    Json.memberIfSome "platform" Platform.toJson t.platform ++
    Json.member "query" (.string t.query))

end Task

end AssetSearch
