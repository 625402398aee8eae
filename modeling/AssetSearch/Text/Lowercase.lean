/-
# Lowercase text

Every character is lowered by the simple mapping of `CaseTables`, with two exceptions: `İ` becomes
`i` followed by a combining dot, and a capital sigma at the end of a word becomes the final `ς`.  A
word ends at a sigma when a cased character stands before it and none stands after it, where
characters that case ignores are looked through on both sides.

Main statement: `lowered_ascii` (below `U+0080` the mapping is the one that every reader expects).
-/
import AssetSearch.Text.CaseTables

namespace AssetSearch.Text

/-! ## One character -/

/-- The code point's lowercase, looked up in sorted runs. -/
def lowerIn (n : Nat) : List CaseRun → Nat
  | [] => n
  | run :: rest =>
    if n < run.first then n
    else if n ≤ run.last then
      if (n - run.first) % run.step = 0 then (n + run.offset).toNat else n
    else lowerIn n rest

/-- The lowercase of a character that stands alone. -/
def lowered (c : Char) : List Char :=
  if c = 'İ' then ['i', Char.ofNat 0x307] else [Char.ofNat (lowerIn c.toNat lowercaseRuns)]

/-- Whether a character is a letter with case. -/
def isCased (c : Char) : Bool :=
  inSpans c.toNat casedSpans

/-- Whether the final-sigma rule looks through a character. -/
def isCaseIgnorable (c : Char) : Bool :=
  inSpans c.toNat caseIgnorableSpans

/-! ## The final sigma -/

/-- Whether the first character that case does not ignore is cased. -/
def meetsCased (s : List Char) : Bool :=
  match s.dropWhile isCaseIgnorable with
  | [] => false
  | c :: _ => isCased c

/-- Whether a sigma between `before` (nearest character first) and `after` ends its word. -/
def endsWord (before after : List Char) : Bool :=
  meetsCased before && !meetsCased after

/-! ## Whole texts -/

/-- The lowercase of `rest`, given the characters before it, nearest first. -/
def lowerAfter (before : List Char) : List Char → List Char
  | [] => []
  | c :: rest =>
    (if c = 'Σ' then [if endsWord before rest then 'ς' else 'σ'] else lowered c) ++
      lowerAfter (c :: before) rest

/-- The lowercase of a list of characters. -/
def lowerChars (s : List Char) : List Char :=
  lowerAfter [] s

/-- The lowercase of a text. -/
def lower (s : String) : String :=
  String.ofList (lowerChars s.toList)

/-! ## Facts about single characters -/

theorem lowered_ascii : ∀ n < 128, lowered (Char.ofNat n) = [(Char.ofNat n).toLower] := by
  decide

end AssetSearch.Text
