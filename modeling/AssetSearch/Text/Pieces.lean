/-
# The pieces of a text

A text is cut at every place where a separator stands; the pieces are what stands between, also
where that is nothing.

Main statement: `intercalate_pieces` (the pieces joined by the separator are the text again).
-/

namespace AssetSearch.Text

/-- The pieces between the separators. -/
def pieces (separator : Char) : List Char → List (List Char)
  | [] => [[]]
  | c :: rest =>
    if c = separator then [] :: pieces separator rest
    else
      match pieces separator rest with
      | [] => [[c]]
      | piece :: others => (c :: piece) :: others

theorem pieces_ne_nil (separator : Char) (s : List Char) : pieces separator s ≠ [] := by
  cases s with
  | nil => simp [pieces]
  | cons c rest =>
    rw [pieces]
    split
    · simp
    · split <;> simp

theorem intercalate_pieces (separator : Char) (s : List Char) :
    [separator].intercalate (pieces separator s) = s := by
  induction s with
  | nil => rfl
  | cons c rest ih =>
    rw [pieces]
    cases h : pieces separator rest with
    | nil => exact absurd h (pieces_ne_nil separator rest)
    | cons piece others =>
      rw [h] at ih
      by_cases hc : c = separator
      · subst hc
        simp only [if_true, ← ih]
        cases others <;> simp [List.intercalate]
      · simp only [hc, if_false, ← ih]
        cases others <;> simp [List.intercalate]

end AssetSearch.Text
