/-
# Access keys

The keys under which the platforms are searched, as the backend lists and checks them.  Some
platforms pair a key with the email of its account; the emails come as a second list beside the
keys.

Key definitions: `KeyEntry`, `KeyList.entries` (each key with its email), `KeyVerdict`.
-/
import AssetSearch.Json.Decode

namespace AssetSearch

/-! ## Entries -/

/-- A key, with the email of its account if it has one. -/
structure KeyEntry where
  key : String
  email : Option String
  deriving DecidableEq, Repr, Inhabited

namespace KeyEntry

/-- How an entry is read. -/
def reader : RecordReader KeyEntry :=
  mk <$> .required "key" Json.toStr <*> .optional "email" none (Json.toOption Json.toStr)

/-- Reads an entry from data. -/
def ofJson : Json → Decoded KeyEntry :=
  reader.read "ApiKeyEntry"

/-- The entry as data. -/
def toJson (e : KeyEntry) : Json :=
  .object (Json.member "key" (.string e.key) ++ Json.memberIfSome "email" .string e.email)

end KeyEntry

/-! ## Lists -/

/-- The keys of a platform, and their emails in the same order. -/
structure KeyList where
  keys : List String
  emails : Option (List String)
  deriving DecidableEq, Repr, Inhabited

namespace KeyList

/-- Each key with the email at its place; an empty email is none. -/
def pair : List String → List String → List KeyEntry
  | [], _ => []
  | k :: keys, [] => ⟨k, none⟩ :: pair keys []
  | k :: keys, e :: emails => ⟨k, if e.isEmpty then none else some e⟩ :: pair keys emails

/-- The entries of the list. -/
def entries (l : KeyList) : List KeyEntry :=
  pair l.keys (l.emails.getD [])

/-- How a list is read. -/
def reader : RecordReader KeyList :=
  mk <$> .optional "api_keys" [] (Json.toList Json.toStr)
    <*> .optional "emails" none (Json.toOption (Json.toList Json.toStr))

/-- Reads a list from data. -/
def ofJson : Json → Decoded KeyList :=
  reader.read "ApiKeyList"

/-- The list as data. -/
def toJson (l : KeyList) : Json :=
  .object (Json.member "api_keys" (.ofList .string l.keys) ++
    Json.memberIfSome "emails" (Json.ofList .string) l.emails)

end KeyList

/-! ## Verdicts -/

/-- What a platform says about a key. -/
structure KeyVerdict where
  valid : Bool
  message : Option String
  /-- What is left to the account, in the platform's own form. -/
  quota : Option Json
  deriving Inhabited

namespace KeyVerdict

/-- How a verdict is read. -/
def reader : RecordReader KeyVerdict :=
  mk <$> .required "valid" Json.toBool
    <*> .optional "message" none (Json.toOption Json.toStr)
    <*> .optional "quota" none (Json.toOption Json.toValue)

/-- Reads a verdict from data. -/
def ofJson : Json → Decoded KeyVerdict :=
  reader.read "KeyValidation"

/-- The verdict as data. -/
def toJson (v : KeyVerdict) : Json :=
  .object (Json.member "valid" (.bool v.valid) ++ Json.memberIfSome "message" .string v.message ++
    Json.memberIfSome "quota" id v.quota)

end KeyVerdict

end AssetSearch
