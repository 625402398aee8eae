/-
# Platforms

The search platforms that the program speaks to.  Each has a key, under which it is stored and
sent, and a name that is shown.

Key definitions: `Platform`, `Platform.all`, `Platform.key`, `Platform.parse`.
-/
import AssetSearch.Failure
import AssetSearch.Json.Decode
import AssetSearch.Text.Blank
import AssetSearch.Text.Lowercase

namespace AssetSearch

/-- A search platform. -/
inductive Platform where
  | hunter
  | fofa
  | quake
  | daydaymap
  deriving DecidableEq, Repr, Inhabited

namespace Platform

/-- Every platform, in the order in which they are listed. -/
def all : List Platform :=
  [hunter, fofa, quake, daydaymap]

/-- The platform that is selected when none was chosen. -/
def default : Platform :=
  hunter

/-- The key of a platform in stored and sent data. -/
def key : Platform → String
  | hunter => "hunter"
  | fofa => "fofa"
  | quake => "quake"
  | daydaymap => "daydaymap"

/-- The name of a platform as it is shown. -/
def displayName : Platform → String
  | hunter => "Hunter"
  | fofa => "FOFA"
  | quake => "Quake"
  | daydaymap => "DayDayMap"

/-- Whether the keys of a platform belong to an account, named by its email. -/
def requiresEmail : Platform → Bool
  | fofa => true
  | _ => false

/-- The platform with exactly this key. -/
def ofKey? (s : String) : Option Platform :=
  all.find? (fun p => p.key == s)

/-- The platform that a text names, whatever its case and the blanks around it. -/
def parse (s : String) : Outcome Platform :=
  match ofKey? (Text.lower (Text.trim s)) with
  | some p => .ok p
  | none => .error (.unknownPlatform s)

/-- The platforms by their keys. -/
def choices : List (String × Platform) :=
  all.map fun p => (p.key, p)

/-- The platform as data. -/
def toJson (p : Platform) : Json :=
  .string p.key

/-- Reads a platform from data: only its exact key counts. -/
def ofJson : Json → Decoded Platform :=
  Json.toChoice choices

end Platform

end AssetSearch
