/-
# Fields in directives

A directive may ask for a field by its name, and also for the value of that field: a truth value, a
number, or a pattern that the value is to match.

Key definitions: `Diagnostics.Field` and `Field.read?`.
-/
import AssetSearch.Pattern
import AssetSearch.Text.Pieces

namespace AssetSearch.Diagnostics

/-- The field that a directive asks for. -/
structure Field where
  name : List Char
  value : Option (List Char)
  deriving DecidableEq, Repr

namespace Field

/-- A text without the sign before a number. -/
def unsigned (s : List Char) : List Char :=
  match s with
  | '+' :: rest | '-' :: rest => rest
  | rest => rest

/-- Whether a text is nothing, or the exponent of a number. -/
def isExponent (s : List Char) : Bool :=
  match s with
  | [] => true
  | 'e' :: rest | 'E' :: rest =>
    let digits := unsigned rest
    !digits.isEmpty && digits.all Char.isDigit
  | _ => false

/-- Whether a text is a number in digits, perhaps with a point and an exponent. -/
def isDecimal (s : List Char) : Bool :=
  let whole := s.takeWhile Char.isDigit
  match s.dropWhile Char.isDigit with
  | '.' :: rest =>
    (!whole.isEmpty || !(rest.takeWhile Char.isDigit).isEmpty) &&
      isExponent (rest.dropWhile Char.isDigit)
  | rest => !whole.isEmpty && isExponent rest

/-- Whether a text is a number; so are infinity and what is no number. -/
def isNumber (s : List Char) : Bool :=
  let s := unsigned s
  isDecimal s ||
    ["inf", "infinity", "nan"].contains (String.ofList (s.map Char.toLower))

/-- Whether a text is the value of a field.  Truth values are patterns, too. -/
def isValue (s : List Char) : Bool :=
  isNumber s || Pattern.isValid s

/-- Reads a field: its name, and its value between the first equals sign and the second. -/
def read? (s : List Char) : Option Field :=
  match Text.pieces '=' s with
  | name :: value :: _ => if isValue value then some ⟨name, some value⟩ else none
  | _ => some ⟨s, none⟩

end Field

end AssetSearch.Diagnostics
