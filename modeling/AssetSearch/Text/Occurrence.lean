/-
# Occurrence of one text in another

Main statement: `occurs_iff` (the search finds exactly the texts that stand somewhere inside).
-/

namespace AssetSearch.Text

/-- Whether `part` stands somewhere in the text. -/
def occurs (part : List Char) : List Char → Bool
  | [] => part.isEmpty
  | c :: rest => part.isPrefixOf (c :: rest) || occurs part rest

/-- Whether the first text stands somewhere in the second. -/
def contains (text part : String) : Bool :=
  occurs part.toList text.toList

theorem occurs_iff (part s : List Char) : occurs part s = true ↔ part <:+: s := by
  induction s with
  | nil => simp [occurs]
  | cons c s ih =>
    rw [occurs, Bool.or_eq_true, ih, List.infix_cons_iff]
    simp

end AssetSearch.Text
