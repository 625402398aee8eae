/-
# How a pattern is read

Parts of a pattern may be read in a mode of their own: with blanks and comments between the signs,
byte by byte, or without regard to case.

Key definitions: `Pattern.Mode`, `Mode.skip` and `Mode.readFlags`.
-/
import AssetSearch.Text.Blank

namespace AssetSearch.Pattern

/-- The mode in which a part of a pattern is read. -/
structure Mode where
  /-- Blanks and comments stand for nothing. -/
  spaced : Bool := false
  /-- Signs stand for characters, and not for single bytes. -/
  unicode : Bool := true
  /-- Upper and lower case are one. -/
  caseless : Bool := false
  deriving DecidableEq, Repr

namespace Mode

/-- The text after blanks and comments; a comment lasts until the end of its line. -/
def skipSpace (inComment : Bool) : List Char → List Char
  | [] => []
  | c :: rest =>
    if inComment then skipSpace (c != '\n') rest
    else if Text.isBlank c then skipSpace false rest
    else if c = '#' then skipSpace true rest
    else c :: rest

/-- The text from the next sign. -/
def skip (m : Mode) (s : List Char) : List Char :=
  if m.spaced then skipSpace false s else s

/-- The next sign inside a set, past blanks and at most one mark of a comment. -/
def next? (m : Mode) (s : List Char) : Option Char :=
  if m.spaced then
    match Text.stripStart s with
    | '#' :: rest => (Text.stripStart rest).head?
    | rest => rest.head?
  else s.head?

/-- The mode after a flag was set or taken back. -/
def withFlag? (m : Mode) (flag : Char) (on : Bool) : Option Mode :=
  match flag with
  | 'x' => some { m with spaced := on }
  | 'u' => some { m with unicode := on }
  | 'i' => some { m with caseless := on }
  | 'm' | 's' | 'U' | 'R' => some m
  | _ => none

/-- Reads flags up to the colon before a group, or up to the bracket that ends them: the new mode,
whether a group follows, and the rest.  No flag stands twice, a minus sign stands once and before a
flag, and a bracket does not follow nothing. -/
def readFlags (m : Mode) (seen : List Char) (negated dangling : Bool) :
    List Char → Option (Mode × Bool × List Char)
  | [] => none
  | c :: rest =>
    if c = ':' then if dangling then none else some (m, true, rest)
    else if c = ')' then if dangling || seen.isEmpty then none else some (m, false, rest)
    else if c = '-' then if negated then none else readFlags m seen true true rest
    else if seen.contains c then none
    else
      match m.withFlag? c !negated with
      | none => none
      | some m => readFlags m (c :: seen) negated false rest

end Mode

end AssetSearch.Pattern
