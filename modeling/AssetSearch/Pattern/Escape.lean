/-
# Escapes in patterns

What a backslash and the signs after it stand for: a character by its code or by itself, a class of
characters, or a position in the text.

Key definitions: `Pattern.Escape` and `Escape.read?`.
-/
import AssetSearch.Pattern.Mode

namespace AssetSearch.Pattern

/-- What an escape stands for. -/
inductive Escape where
  /-- A character, perhaps given as a byte by two digits. -/
  | literal (c : Char) (asByte : Bool)
  /-- Digits, blanks or the characters of words, or all others. -/
  | shorthand (negated : Bool)
  /-- A general category of characters. -/
  | category
  /-- The beginning or the end of the text. -/
  | edge
  /-- The beginning or the end of a word, or any other place. -/
  | wordEdge
  deriving DecidableEq, Repr

namespace Escape

/-- The value of a hexadecimal digit. -/
def hexValue? (c : Char) : Option Nat :=
  if c.isDigit then some (c.toNat - '0'.toNat)
  else if 'a' ≤ c ∧ c ≤ 'f' then some (c.toNat - 'a'.toNat + 10)
  else if 'A' ≤ c ∧ c ≤ 'F' then some (c.toNat - 'A'.toNat + 10)
  else none

/-- Reads a number of hexadecimal digits. -/
def readHex? (m : Mode) : Nat → Nat → List Char → Option (Nat × List Char)
  | 0, value, s => some (value, s)
  | _ + 1, _, [] => none
  | n + 1, value, c :: rest =>
    match hexValue? c with
    | none => none
    | some d => readHex? m n (value * 16 + d) (m.skip rest)

/-- Reads a character by its code in a number of digits; two digits may also give a byte. -/
def readCode? (m : Mode) (digits : Nat) (s : List Char) : Option (Escape × List Char) :=
  match readHex? m digits 0 (m.skip s) with
  | none => none
  | some (n, rest) =>
    if n.isValidChar then some (literal (Char.ofNat n) (digits == 2), rest) else none

/-- Reads a general category by its letter. -/
def readCategory? (m : Mode) (s : List Char) : Option (Escape × List Char) :=
  match m.skip s with
  | [] => none
  | c :: rest =>
    if ['c', 'l', 'm', 'n', 'p', 's', 'z'].contains c.toLower then some (category, m.skip rest)
    else none

/-- The control characters that have a letter. -/
def control? (c : Char) : Option Char :=
  match c with
  | 'a' => some '\x07'
  | 'f' => some '\x0C'
  | 't' => some '\t'
  | 'n' => some '\n'
  | 'r' => some '\r'
  | 'v' => some '\x0B'
  | _ => none

/-- Reads what follows a backslash. -/
def read? (m : Mode) : List Char → Option (Escape × List Char)
  | [] => none
  | c :: rest =>
    match c with
    | 'x' => readCode? m 2 rest
    | 'u' => readCode? m 4 rest
    | 'U' => readCode? m 8 rest
    | 'p' | 'P' => readCategory? m rest
    | 'd' | 's' | 'w' => some (shorthand false, rest)
    | 'D' | 'S' | 'W' => some (shorthand true, rest)
    | 'A' | 'z' => some (edge, rest)
    | 'b' | 'B' | '<' | '>' => some (wordEdge, rest)
    | c =>
      match control? c with
      | some k => some (literal k false, rest)
      | none => if c.toNat < 128 && !c.isAlphanum then some (literal c false, rest) else none

end Escape

end AssetSearch.Pattern
