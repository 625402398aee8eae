/-
# Components in diagnostics

How a component of the program is shown in diagnostic output: its name, and between braces those of
its fields that are shown, with two dots for the rest.
-/

namespace AssetSearch.Text

/-- One field and its value. -/
def describedField (field : String × String) : String :=
  field.1 ++ ": " ++ field.2

/-- A component with some of its fields; `complete` tells whether these are all. -/
def described (name : String) (fields : List (String × String)) (complete : Bool) : String :=
  let shown := fields.map describedField ++ (if complete then [] else [".."])
  name ++ " \x7b " ++ ", ".intercalate shown ++ " \x7d"

end AssetSearch.Text
