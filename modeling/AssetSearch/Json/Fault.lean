/-
# Why a value could not be read

A reader of values fails for one of a few causes: the text is no JSON, a value is of the wrong
kind, out of range, too short or too long, or a field or a name is missing, repeated or unknown.

Key definitions: `Json.Found` (what stood there), `Json.Fault` and `Json.Fault.message`.
-/
import AssetSearch.Json.Printer
import AssetSearch.Text.Quoted

namespace AssetSearch.Json

/-! ## What was found -/

/-- What stood in the place of an expected value. -/
inductive Found where
  | null
  | bool (b : Bool)
  | number (n : Number)
  | string (s : String)
  | sequence
  | map
  deriving DecidableEq

/-- What a value looks like to a reader that expected something else. -/
def found? : Json → Option Found
  | .null => some .null
  | .bool b => some (.bool b)
  | .number n => some (.number n)
  | .string s => some (.string s)
  | .array _ => some .sequence
  | .object _ => some .map
  | .unreadable => none

/-- The found value in words. -/
def Found.describe : Found → String
  | null => "null"
  | bool b => s!"boolean `{b}`"
  | number (.integer n) => s!"integer `{n}`"
  | number (.double x) => s!"floating point `{String.ofList x.text}`"
  | string s => s!"string {Text.quoted s}"
  | sequence => "sequence"
  | map => "map"

/-! ## Faults -/

/-- Why a value could not be read. -/
inductive Fault where
  /-- The text is no JSON, or a value in it cannot be read at all. -/
  | malformed
  | invalidType (found : Found) (expected : String)
  | invalidValue (found : Found) (expected : String)
  | invalidLength (length : Nat) (expected : String)
  | missingField (name : String)
  | duplicateField (name : String)
  | unknownVariant (name : String) (choices : List String)
  | invalidTimestamp
  deriving DecidableEq

/-- The choices in words: the only one, either of two, or one of a list. -/
def describeChoices : List String → String
  | [] => "there are no variants"
  | [a] => s!"expected `{a}`"
  | [a, b] => s!"expected `{a}` or `{b}`"
  | choices => "expected one of " ++ ", ".intercalate (choices.map fun c => s!"`{c}`")

/-- The fault in words. -/
def Fault.message : Fault → String
  | malformed => "malformed value"
  | invalidType found expected => s!"invalid type: {found.describe}, expected {expected}"
  | invalidValue found expected => s!"invalid value: {found.describe}, expected {expected}"
  | invalidLength length expected => s!"invalid length {length}, expected {expected}"
  | missingField name => s!"missing field `{name}`"
  | duplicateField name => s!"duplicate field `{name}`"
  | unknownVariant name choices => s!"unknown variant `{name}`, {describeChoices choices}"
  | invalidTimestamp => "invalid timestamp"

/-- The fault of a value of the wrong kind. -/
def mismatch (j : Json) (expected : String) : Fault :=
  match j.found? with
  | some found => .invalidType found expected
  | none => .malformed

end AssetSearch.Json
