/-
# Checking and translating queries

The backend checks queries and translates them between platforms.  It names platforms by texts;
those that are unknown here are left out.

Key definitions: `Translation`, `Translation.supported`, `Translation.validate`,
`Translation.convert` and `Translation.convertToAll`.
-/
import AssetSearch.Backend.Site

namespace AssetSearch

/-- A query that is written for a platform. -/
structure Translation where
  platform : Platform
  query : String
  deriving DecidableEq, Repr

/-- The trimmed query, which must not be blank. -/
def trimmedQuery (query : String) : Outcome String :=
  match Text.filled? query with
  | some q => .ok q
  | none => .error (.emptyInput "query")

namespace Translation

variable {σ : Type}

/-- A translation for a known platform. -/
def ofRaw? (t : RawTranslation) : Option Translation :=
  match Platform.parse t.platform with
  | .ok p => some ⟨p, t.query⟩
  | .error _ => none

/-- The known platforms among those that the backend translates between. -/
def supported (b : Backend σ) (s : Site σ) : Outcome (List Platform) × Site σ :=
  let (outcome, s) := s.invoke b .supportedPlatforms
  (Except.map (fun (names : List String) => names.filterMap fun n => (Platform.parse n).toOption)
    outcome, s)

/-- What the backend's verdict on a query means. -/
def verdict (platform : Platform) : Outcome Bool → Outcome Unit
  | .ok true => .ok ()
  | .ok false => .error (.invalidQuery platform.key "query syntax is invalid")
  | .error (.backend _ message) => .error (.invalidQuery platform.key message)
  | .error e => .error e

/-- Checks a query. -/
def validate (b : Backend σ) (query : String) (platform : Platform) (s : Site σ) :
    Outcome Unit × Site σ :=
  match trimmedQuery query with
  | .error e => (.error e, s)
  | .ok q =>
    let (outcome, s) := s.invoke b (.validateQuery q platform)
    (verdict platform outcome, s)

/-- Translates a query to another platform. -/
def convert (b : Backend σ) (query : String) (source target : Platform) (s : Site σ) :
    Outcome (List Translation) × Site σ :=
  match trimmedQuery query with
  | .error e => (.error e, s)
  | .ok q =>
    let (outcome, s) := s.invoke b (.convert q source target)
    (Except.map (fun text => [⟨target, text⟩]) outcome, s)

/-- Translates a query to all platforms that the backend thinks of. -/
def convertToAll (b : Backend σ) (query : String) (source : Platform) (s : Site σ) :
    Outcome (List Translation) × Site σ :=
  match trimmedQuery query with
  | .error e => (.error e, s)
  | .ok q =>
    let (outcome, s) := s.invoke b (.convertToAll q source)
    (Except.map (fun (raw : List RawTranslation) => raw.filterMap ofRaw?) outcome, s)

end Translation

end AssetSearch
