/-
# JSON values

The values of the data format, as read from a text: objects keep their members in the order of the
text and keep repeated keys.  A value that is well formed but cannot be read is a leaf of its own,
`unreadable`: it may stand where nothing looks at it, and everything that looks at it fails.

Key definitions: `Json`, `Json.collect?` (a value taken as free-form data: everything in it is
readable, keys are sorted, and of a repeated key the last one counts).
-/
import AssetSearch.Decimal.Double

namespace AssetSearch

/-! ## Values -/

/-- Numbers keep their kind: an integer of 64 bits, signed or unsigned, or a double. -/
inductive Number where
  | integer (n : Int)
  | double (x : Double)
  deriving DecidableEq

/-- A JSON value. -/
inductive Json where
  | null
  | bool (b : Bool)
  | number (n : Number)
  | string (s : String)
  | array (items : List Json)
  | object (members : List (String × Json))
  | unreadable

namespace Json

instance : Inhabited Json := ⟨null⟩

/-- An integer value. -/
def ofInt (n : Int) : Json :=
  number (.integer n)

/-- A natural number as a value. -/
def ofNat (n : Nat) : Json :=
  number (.integer n)

/-- A double as a value. -/
def ofDouble (x : Double) : Json :=
  number (.double x)

/-- The value, or `null` when there is none. -/
def ofOption {α : Type} (encode : α → Json) : Option α → Json
  | none => null
  | some a => encode a

/-- A list of values. -/
def ofList {α : Type} (encode : α → Json) (items : List α) : Json :=
  array (items.map encode)

/-- Whether the value is `null`. -/
def isNull : Json → Bool
  | null => true
  | _ => false

/-! ## Members -/

/-- The value of the first member with the key. -/
def lookup (key : String) : List (String × Json) → Option Json
  | [] => none
  | (k, v) :: rest => if k = key then some v else lookup key rest

/-- The value of a key of an object. -/
def get? (j : Json) (key : String) : Option Json :=
  match j with
  | object members => lookup key members
  | _ => none

/-- Puts a member into a list sorted by key; a member with the same key is replaced. -/
def insertMember (key : String) (value : Json) : List (String × Json) → List (String × Json)
  | [] => [(key, value)]
  | (k, v) :: rest =>
    if key = k then (key, value) :: rest
    else if key < k then (key, value) :: (k, v) :: rest
    else (k, v) :: insertMember key value rest

/-- The members sorted by key; of a repeated key the last member counts. -/
def sortMembers (members : List (String × Json)) : List (String × Json) :=
  members.foldl (fun sorted m => insertMember m.1 m.2 sorted) []

/-- An object with sorted keys. -/
def record (members : List (String × Json)) : Json :=
  object (sortMembers members)

/-! ## Free-form values -/

mutual

/-- The value as free-form data, if all of it can be read. -/
def collect? : Json → Option Json
  | null => some null
  | bool b => some (bool b)
  | number n => some (number n)
  | string s => some (string s)
  | array items => (collectItems? items).map array
  | object members => (collectMembers? members).map record
  | unreadable => none

/-- The items of an array as free-form data. -/
def collectItems? : List Json → Option (List Json)
  | [] => some []
  | j :: rest =>
    match collect? j, collectItems? rest with
    | some v, some vs => some (v :: vs)
    | _, _ => none

/-- The members of an object as free-form data, still in their order. -/
def collectMembers? : List (String × Json) → Option (List (String × Json))
  | [] => some []
  | (k, j) :: rest =>
    match collect? j, collectMembers? rest with
    | some v, some vs => some ((k, v) :: vs)
    | _, _ => none

end

end Json

end AssetSearch
