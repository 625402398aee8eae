/-
# Managing keys

Keys are listed, added, deleted and checked by the backend.  Before anything is sent, a key is
trimmed and must not be blank, and the email of the account must be given where the platform needs
it; elsewhere it is left out.

Key definitions: `Keys.checkedEmail`, `Keys.checkedKey`, `Keys.add`, `Keys.addBatch`,
`Keys.validate` and `Keys.validateAll`.
-/
import AssetSearch.Backend.Site
import AssetSearch.Keys.Batch

namespace AssetSearch.Keys

variable {σ : Type}

/-! ## Guards -/

/-- The email that goes with a key. -/
def checkedEmail (platform : Platform) (email : Option String) : Outcome (Option String) :=
  if platform.requiresEmail then
    match email.bind Text.filled? with
    | some e => .ok (some e)
    | none =>
      let name := platform.displayName
      .error (.invalidField "email" s!"{name} keys require the account email")
  else .ok none

/-- The key as it is sent. -/
def checkedKey (key : String) : Outcome String :=
  match Text.filled? key with
  | some k => .ok k
  | none => .error (.emptyInput "api key")

/-- The key and the email as they are sent. -/
def checked (platform : Platform) (key : String) (email : Option String) :
    Outcome (String × Option String) :=
  match checkedKey key with
  | .error e => .error e
  | .ok k => (checkedEmail platform email).map fun e => (k, e)

/-! ## Single keys -/

/-- The keys of a platform, each with its email. -/
def list (b : Backend σ) (platform : Platform) (s : Site σ) : Outcome (List KeyEntry) × Site σ :=
  let (outcome, s) := s.invoke b (.keys platform)
  (Except.map KeyList.entries outcome, s)

/-- Adds a key. -/
def add (b : Backend σ) (platform : Platform) (key : String) (email : Option String) (s : Site σ) :
    Outcome Unit × Site σ :=
  match checked platform key email with
  | .error e => (.error e, s)
  | .ok (k, e) => s.invoke b (.addKey platform k e)

/-- Deletes a key. -/
def delete (b : Backend σ) (platform : Platform) (key : String) (email : Option String)
    (s : Site σ) : Outcome Unit × Site σ :=
  match checked platform key email with
  | .error e => (.error e, s)
  | .ok (k, e) => s.invoke b (.deleteKey platform k e)

/-- Checks a key. -/
def validate (b : Backend σ) (platform : Platform) (key : String) (email : Option String)
    (s : Site σ) : Outcome KeyVerdict × Site σ :=
  match checked platform key email with
  | .error e => (.error e, s)
  | .ok (k, e) => s.invoke b (.validateKey platform k e)

/-! ## Many keys -/

/-- Whether an outcome is a success. -/
def succeeded {α : Type} : Outcome α → Bool
  | .ok _ => true
  | .error _ => false

/-- Adds keys one after the other and counts the outcomes. -/
def addEach (b : Backend σ) (platform : Platform) (email : Option String) :
    List String → BatchOutcome → Site σ → BatchOutcome × Site σ
  | [], counts, s => (counts, s)
  | key :: rest, counts, s =>
    let (outcome, s) := s.invoke b (.addKey platform key email)
    addEach b platform email rest (counts.count (succeeded outcome)) s

/-- Adds every key of a text. -/
def addBatch (b : Backend σ) (platform : Platform) (text : String) (email : Option String)
    (s : Site σ) : Outcome BatchOutcome × Site σ :=
  let keys := parseBatch text
  if keys.isEmpty then (.error (.emptyInput "key batch"), s)
  else
    match checkedEmail platform email with
    | .error e => (.error e, s)
    | .ok email =>
      let (counts, s) := addEach b platform email keys ⟨0, 0⟩ s
      (.ok counts, s)

/-- A key with the verdict on it, or the reason why there is none. -/
structure KeyCheck where
  entry : KeyEntry
  verdict : Except String KeyVerdict

/-- Checks keys one after the other. -/
def checkEach (b : Backend σ) (platform : Platform) :
    List KeyEntry → Site σ → List KeyCheck × Site σ
  | [], s => ([], s)
  | entry :: rest, s =>
    let (outcome, s) := validate b platform entry.key entry.email s
    let (checks, s) := checkEach b platform rest s
    (⟨entry, outcome.mapError Failure.userMessage⟩ :: checks, s)

/-- Checks every key of a platform. -/
def validateAll (b : Backend σ) (platform : Platform) (s : Site σ) :
    Outcome (List KeyCheck) × Site σ :=
  match list b platform s with
  | (.error e, s) => (.error e, s)
  | (.ok entries, s) =>
    let (checks, s) := checkEach b platform entries s
    (.ok checks, s)

end AssetSearch.Keys
