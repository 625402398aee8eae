/-
# Blank characters and trimming

A character is blank when it has the White_Space property.  Text is trimmed by removing blank
characters at both ends; a text is blank when nothing is left.

Main statements: `strip_eq_nil_iff` (a text strips to nothing exactly when all of it is blank) and
`strip_nonblank_ends` (what is left starts and ends with a character that is not blank).
-/

namespace AssetSearch.Text

/-! ## The property -/

/-- White space: the controls from tab to carriage return, next line, and the space, line and
paragraph separators.  The information separators `U+001C`–`U+001F`, the zero-width space and the
byte-order mark are not blank. -/
def isBlank (c : Char) : Bool :=
  let n := c.toNat
  (0x09 ≤ n && n ≤ 0x0D) || n == 0x20 || n == 0x85 || n == 0xA0 || n == 0x1680 ||
    (0x2000 ≤ n && n ≤ 0x200A) || n == 0x2028 || n == 0x2029 || n == 0x202F || n == 0x205F ||
    n == 0x3000

/-- Every character that core calls white space is blank. -/
theorem isBlank_of_isWhitespace (c : Char) (h : c.isWhitespace = true) : isBlank c = true := by
  simp only [Char.isWhitespace, Bool.or_eq_true, decide_eq_true_eq] at h
  rcases h with ((h | h) | h) | h <;> subst h <;> decide

/-! ## Trimming -/

/-- The characters from the first one that is not blank. -/
def stripStart (s : List Char) : List Char :=
  s.dropWhile isBlank

/-- The characters up to the last one that is not blank. -/
def stripEnd (s : List Char) : List Char :=
  (stripStart s.reverse).reverse

/-- The characters between the first and the last one that is not blank. -/
def strip (s : List Char) : List Char :=
  stripEnd (stripStart s)

/-- The text without blank characters at either end. -/
def trim (s : String) : String :=
  String.ofList (strip s.toList)

/-- Whether every character of the text is blank. -/
def blank (s : String) : Bool :=
  s.toList.all isBlank

/-- The trimmed text, or nothing when the text is blank. -/
def filled? (s : String) : Option String :=
  if blank s then none else some (trim s)

/-! ## What trimming leaves -/

theorem stripStart_eq_nil_iff (s : List Char) : stripStart s = [] ↔ ∀ c ∈ s, isBlank c = true := by
  induction s with
  | nil => simp [stripStart]
  | cons c s ih =>
    by_cases h : isBlank c = true
    · have skip : stripStart (c :: s) = stripStart s := List.dropWhile_cons_of_pos h
      rw [skip, ih, List.forall_mem_cons]
      exact (and_iff_right h).symm
    · simp [stripStart, h]

theorem strip_eq_nil_iff (s : List Char) : strip s = [] ↔ ∀ c ∈ s, isBlank c = true := by
  induction s with
  | nil => simp [strip, stripEnd, stripStart]
  | cons c s ih =>
    by_cases h : isBlank c = true
    · have hs : stripStart (c :: s) = stripStart s := by simp [stripStart, h]
      rw [strip, hs, ← strip, ih]
      simp [h]
    · have hs : stripStart (c :: s) = c :: s := by simp [stripStart, h]
      rw [strip, hs, stripEnd, List.reverse_eq_nil_iff, stripStart_eq_nil_iff]
      simp only [List.mem_reverse]

theorem head_stripStart (s : List Char) (c : Char) (h : (stripStart s).head? = some c) :
    isBlank c = false := by
  induction s with
  | nil => simp [stripStart] at h
  | cons d s ih =>
    by_cases hd : isBlank d = true
    · exact ih (by simpa [stripStart, hd] using h)
    · simp only [stripStart, List.dropWhile_cons, hd, Bool.false_eq_true, if_false,
        List.head?_cons, Option.some.injEq] at h
      subst h
      simpa using hd

/-- What is left starts and ends with a character that is not blank. -/
theorem strip_nonblank_ends (s : List Char) :
    (∀ c, (strip s).head? = some c → isBlank c = false) ∧
      ∀ c, (strip s).getLast? = some c → isBlank c = false := by
  constructor
  · intro c hc
    -- what is cut off at the end does not change the start
    have hprefix : stripEnd (stripStart s) <+: stripStart s := by
      have hsuffix : stripStart (stripStart s).reverse <:+ (stripStart s).reverse :=
        List.dropWhile_suffix isBlank
      simpa [stripEnd] using List.reverse_prefix.2 hsuffix
    obtain ⟨rest, hrest⟩ := hprefix
    refine head_stripStart s c ?_
    rw [← hrest, List.head?_append, ← strip, hc, Option.some_or]
  · intro c hc
    rw [strip, stripEnd, List.getLast?_reverse] at hc
    exact head_stripStart _ c hc

theorem blank_iff (s : String) : blank s = true ↔ ∀ c ∈ s.toList, isBlank c = true := by
  simp [blank]

/-- A text is blank exactly when trimming leaves nothing. -/
theorem trim_eq_empty_iff (s : String) : trim s = "" ↔ blank s = true := by
  rw [blank_iff, ← strip_eq_nil_iff, trim]
  constructor
  · intro h
    have := congrArg String.toList h
    simpa using this
  · intro h
    simp [h]

end AssetSearch.Text
