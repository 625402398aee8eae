/-
# Reading domain values from JSON

Readers for the basic kinds of data, for enumerations and for records.  A record is described once,
by its fields in order; it is read from an object, whose unknown keys are ignored and whose known
keys may not repeat, or from an array of the fields in order, of which a tail may be missing that
consists of optional fields.

Key definitions: `Json.toStr`, `Json.toNat`, `Json.toList`, … (basic kinds), `Json.toChoice`
(enumerations), `RecordReader` (records) with `RecordReader.required` and `RecordReader.optional`.
-/
import AssetSearch.Json.Fault

namespace AssetSearch

/-- The outcome of reading a value. -/
abbrev Decoded (α : Type) : Type :=
  Except Json.Fault α

namespace Json

/-! ## Basic kinds -/

/-- Reads a string. -/
def toStr : Json → Decoded String
  | string s => .ok s
  | j => .error (j.mismatch "a string")

/-- Reads a truth value. -/
def toBool : Json → Decoded Bool
  | bool b => .ok b
  | j => .error (j.mismatch "a boolean")

/-- Reads an integer between two bounds. -/
def toIntBetween (low high : Int) (name : String) : Json → Decoded Int
  | number (.integer n) =>
    if low ≤ n ∧ n ≤ high then .ok n
    else .error (.invalidValue (.number (.integer n)) name)
  | j => .error (j.mismatch name)

/-- The largest unsigned number of 32 bits. -/
def maxNat32 : Nat :=
  UInt32.size - 1

/-- The largest unsigned number of 64 bits. -/
def maxNat64 : Nat :=
  UInt64.size - 1

/-- Reads a natural number below `2^32`. -/
def toNat32 (j : Json) : Decoded Nat :=
  (j.toIntBetween 0 maxNat32 "u32").map Int.toNat

/-- Reads a natural number below `2^64`. -/
def toNat64 (j : Json) : Decoded Nat :=
  (j.toIntBetween 0 maxNat64 "u64").map Int.toNat

/-- Reads an integer of 32 bits. -/
def toInt32 (j : Json) : Decoded Int :=
  j.toIntBetween (-2147483648) 2147483647 "i32"

/-- Reads a double; an integer becomes the nearest one. -/
def toDouble : Json → Decoded Double
  | number (.double x) => .ok x
  | number (.integer n) => .ok (Double.ofInt n)
  | j => .error (j.mismatch "f64")

/-- Reads free-form data. -/
def toValue (j : Json) : Decoded Json :=
  match j.collect? with
  | some v => .ok v
  | none => .error .malformed

/-- Reads something that may be `null`. -/
def toOption {α : Type} (read : Json → Decoded α) (j : Json) : Decoded (Option α) :=
  match j with
  | null => .ok none
  | j => (read j).map some

/-- Reads every item of a list. -/
def readAll {α : Type} (read : Json → Decoded α) : List Json → Decoded (List α)
  | [] => .ok []
  | j :: rest =>
    match read j with
    | .error e => .error e
    | .ok a => (readAll read rest).map (a :: ·)

/-- Reads an array. -/
def toList {α : Type} (read : Json → Decoded α) : Json → Decoded (List α)
  | array items => readAll read items
  | j => .error (j.mismatch "a sequence")

/-! ## Enumerations -/

/-- The choice with a name. -/
def choose {α : Type} (choices : List (String × α)) (name : String) : Decoded α :=
  match choices.find? (fun c => c.1 == name) with
  | some c => .ok c.2
  | none => .error (.unknownVariant name (choices.map (·.1)))

/-- Reads one of several names, alone or as the only key of an object with the value `null`. -/
def toChoice {α : Type} (choices : List (String × α)) : Json → Decoded α
  | string s => choose choices s
  | object [(name, value)] =>
    match choose choices name with
    | .error e => .error e
    | .ok a => if value.isNull then .ok a else .error (value.mismatch "unit")
  | object _ => .error (.invalidValue .map "map with a single key")
  | j => .error (j.mismatch "string or map")

/-! ## Texts -/

/-- Reads the bytes of a JSON text. -/
def decodeBytes {α : Type} (read : Json → Decoded α) (bytes : List UInt8) : Decoded α :=
  match parse? bytes with
  | some j => read j
  | none => .error .malformed

/-- Reads a JSON text. -/
def decodeText {α : Type} (read : Json → Decoded α) (s : String) : Decoded α :=
  decodeBytes read (bytesOf s)

end Json

/-! ## Records -/

/-- One field of a record as far as the reader of the whole record sees it. -/
structure FieldRule where
  name : String
  /-- Whether the field may be missing. -/
  isOptional : Bool
  /-- Whether a value suits the field. -/
  check : Json → Decoded Unit

/-- The description of a record: its fields in order, and how it is built from named values. -/
structure RecordReader (α : Type) where
  fields : List FieldRule
  build : List (String × Json) → Decoded α

namespace RecordReader

/-- A field that must be there. -/
def required {α : Type} (name : String) (read : Json → Decoded α) : RecordReader α where
  fields := [⟨name, false, fun j => (read j).map fun _ => ()⟩]
  build members :=
    match Json.lookup name members with
    | some j => read j
    | none => .error (.missingField name)

/-- A field that has a value of its own when it is missing. -/
def optional {α : Type} (name : String) (absent : α) (read : Json → Decoded α) :
    RecordReader α where
  fields := [⟨name, true, fun j => (read j).map fun _ => ()⟩]
  build members :=
    match Json.lookup name members with
    | some j => read j
    | none => .ok absent

/-- The record that needs no field. -/
def const {α : Type} (a : α) : RecordReader α where
  fields := []
  build _ := .ok a

/-- The record with further fields. -/
def andThen {α β : Type} (r : RecordReader (α → β)) (s : RecordReader α) : RecordReader β where
  fields := r.fields ++ s.fields
  build members :=
    match r.build members with
    | .error e => .error e
    | .ok f => (s.build members).map f

instance : Applicative RecordReader where
  pure := const
  seq r s := andThen r (s ())

/-- Checks the members of an object in order. -/
def checkMembers (fields : List FieldRule) (seen : List String) :
    List (String × Json) → Decoded Unit
  | [] => .ok ()
  | (key, value) :: rest =>
    match fields.find? (fun f => f.name == key) with
    | none => checkMembers fields seen rest
    | some f =>
      if key ∈ seen then .error (.duplicateField key)
      else
        match f.check value with
        | .error e => .error e
        | .ok () => checkMembers fields (key :: seen) rest

/-- Checks the items of an array against the fields in order; `position` items have passed. -/
def checkItems (expected : String) (position : Nat) :
    List FieldRule → List Json → Decoded Unit
  | [], [] => .ok ()
  | [], surplus => .error (.invalidLength (position + surplus.length) "fewer elements in array")
  | f :: fields, [] =>
    if f.isOptional then checkItems expected (position + 1) fields []
    else .error (.invalidLength position expected)
  | f :: fields, j :: items =>
    match f.check j with
    | .error e => .error e
    | .ok () => checkItems expected (position + 1) fields items

/-- The record and its number of fields in words. -/
def describe {α : Type} (r : RecordReader α) (name : String) : String :=
  let n := r.fields.length
  let noun := if n = 1 then "element" else "elements"
  s!"struct {name} with {n} {noun}"

/-- Reads a record with the given name. -/
def read {α : Type} (r : RecordReader α) (name : String) : Json → Decoded α
  | .object members =>
    match checkMembers r.fields [] members with
    | .error e => .error e
    | .ok () => r.build members
  | .array items =>
    match checkItems (r.describe name) 0 r.fields items with
    | .error e => .error e
    | .ok () => r.build ((r.fields.map (·.name)).zip items)
  | j => .error (j.mismatch s!"struct {name}")

end RecordReader

/-! ## Writing records -/

namespace Json

/-- A member that is always written. -/
def member (key : String) (value : Json) : List (String × Json) :=
  [(key, value)]

/-- A member that is left out when there is no value. -/
def memberIfSome {α : Type} (key : String) (encode : α → Json) : Option α → List (String × Json)
  | none => []
  | some a => [(key, encode a)]

end Json

end AssetSearch
