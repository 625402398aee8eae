/-
# Sets of characters in patterns

A set in square brackets is a union of characters, ranges, classes and other sets; unions may be
combined by intersection and by two kinds of difference, and a set may stand for its complement.  In
a mode that reads byte by byte no set may hold a byte that is not a character by itself.  Such bytes
are in a set either all or not at all, so that one truth value stands for them.

Key definitions: `Pattern.OpenSet`, `CharSet.readRange?` and `CharSet.read?`.
-/
import AssetSearch.Pattern.Escape

namespace AssetSearch.Pattern

/-- How two sets are combined. -/
inductive SetOperation where
  | intersection
  | difference
  | symmetricDifference
  deriving DecidableEq, Repr

/-- Whether a combined set holds what its parts hold or do not hold. -/
def SetOperation.apply : SetOperation → Bool → Bool → Bool
  | intersection, a, b => a && b
  | difference, a, b => a && !b
  | symmetricDifference, a, b => a != b

/-- What was read of a set whose closing bracket has not been read: whether its complement is meant;
of the union that is being read, its number of members, how deep they are nested and whether it
holds high bytes; and what that union is to be combined with. -/
structure OpenSet where
  negated : Bool
  size : Nat := 0
  depth : Nat := 0
  high : Bool := false
  pending : Option (SetOperation × Nat × Bool) := none
  deriving DecidableEq, Repr

namespace OpenSet

/-- How deep everything read so far is nested; a union of several members is one level of its
own. -/
def combinedDepth (s : OpenSet) : Nat :=
  let union := if s.size ≤ 1 then s.depth else s.depth + 1
  match s.pending with
  | none => union
  | some (_, left, _) => max left union + 1

/-- Whether everything read so far holds high bytes. -/
def combinedHigh (s : OpenSet) : Bool :=
  match s.pending with
  | none => s.high
  | some (op, _, left) => op.apply left s.high

/-- How deep the set, once it is closed, is nested. -/
def closedDepth (s : OpenSet) : Nat :=
  s.combinedDepth + 1

/-- Whether the set, once it is closed, holds high bytes. -/
def closedHigh (s : OpenSet) : Bool :=
  s.combinedHigh != s.negated

/-- Adds a member to the union. -/
def add (s : OpenSet) (depth : Nat) (high : Bool) : OpenSet :=
  { s with size := s.size + 1, depth := max s.depth depth, high := s.high || high }

/-- Begins the union that what was read is to be combined with. -/
def combine (s : OpenSet) (op : SetOperation) : OpenSet :=
  { negated := s.negated, pending := some (op, s.combinedDepth, s.combinedHigh) }

end OpenSet

namespace CharSet

/-! ## Members -/

/-- The names of the classes of characters below `U+0080`. -/
def classNames : List String :=
  ["alnum", "alpha", "ascii", "blank", "cntrl", "digit", "graph", "lower", "print", "punct",
    "space", "upper", "word", "xdigit"]

/-- Reads a class by its name after the opening bracket: whether its complement is meant. -/
def readClass? : List Char → Option (Bool × List Char)
  | ':' :: rest =>
    let (negated, rest) :=
      match rest with
      | '^' :: rest => (true, rest)
      | rest => (false, rest)
    let isInName (c : Char) := c != ':'
    match rest.dropWhile isInName with
    | ':' :: ']' :: after =>
      if classNames.contains (String.ofList (rest.takeWhile isInName)) then some (negated, after)
      else none
    | _ => none
  | _ => none

/-- Whether something by itself may stand in a set; it brings no high bytes. -/
def isMember (m : Mode) : Escape → Bool
  | .literal c _ => m.unicode || c.toNat < 128
  | .shorthand negated => m.unicode || !negated
  | .category => m.unicode
  | .edge | .wordEdge => false

/-- Reads one sign or escape in a set. -/
def readSign? (m : Mode) : List Char → Option (Escape × List Char)
  | [] => none
  | '\\' :: rest => Escape.read? m rest
  | c :: rest => some (.literal c false, rest)

/-- Whether two signs are the ends of a range. -/
def isRange (m : Mode) : Escape → Escape → Bool
  | .literal a _, .literal b _ => a ≤ b && (m.unicode || b.toNat < 128)
  | _, _ => false

/-- Reads a member or a range; a minus sign before a bracket or another minus sign makes none. -/
def readRange? (m : Mode) (s : List Char) : Option (List Char) :=
  match readSign? m s with
  | none => none
  | some (first, rest) =>
    let rest := m.skip rest
    let alone := if isMember m first then some rest else none
    match rest with
    | [] => none
    | '-' :: after =>
      if m.next? after = some ']' || m.next? after = some '-' then alone
      else
        match readSign? m (m.skip after) with
        | none => none
        | some (last, rest) => if isRange m first last then some rest else none
    | _ => alone

/-! ## Brackets -/

/-- Reads minus signs at the beginning of a set, with blanks and comments. -/
def readDashes (spaced inComment : Bool) (set : OpenSet) : List Char → OpenSet × List Char
  | [] => (set, [])
  | c :: rest =>
    if inComment then readDashes spaced (c != '\n') set rest
    else if c = '-' then readDashes spaced false (set.add 0 false) rest
    else if spaced && Text.isBlank c then readDashes spaced false set rest
    else if spaced && c = '#' then readDashes spaced true set rest
    else (set, c :: rest)

/-- Reads the beginning of a set after its bracket: a sign for the complement, and what stands for
itself only there. -/
def open? (m : Mode) (s : List Char) : Option (OpenSet × List Char) :=
  let (negated, s) :=
    match m.skip s with
    | '^' :: rest => (true, m.skip rest)
    | rest => (false, rest)
  let set : OpenSet := { negated }
  match s with
  | [] => none
  | ']' :: rest => some (set.add 0 false, rest)
  | s => some (readDashes m.spaced false set s)

/-- Reads on to the closing bracket of the outermost of some open sets, the innermost one first; how
deep it is nested, and the rest.  `fuel` exceeds the length of the text. -/
def readSets (m : Mode) : Nat → OpenSet → List OpenSet → List Char → Option (Nat × List Char)
  | 0, _, _, _ => none
  | fuel + 1, set, outer, s =>
    match m.skip s with
    | [] => none
    | '[' :: rest =>
      match readClass? rest with
      | some (high, rest) => readSets m fuel (set.add 0 high) outer rest
      | none =>
        match open? m rest with
        | none => none
        | some (inner, rest) => readSets m fuel inner (set :: outer) rest
    | ']' :: rest =>
      if set.closedHigh && !m.unicode then none
      else
        match outer with
        | [] => some (set.closedDepth, rest)
        | next :: others =>
          readSets m fuel (next.add set.closedDepth set.closedHigh) others rest
    | '&' :: '&' :: rest => readSets m fuel (set.combine .intersection) outer rest
    | '-' :: '-' :: rest => readSets m fuel (set.combine .difference) outer rest
    | '~' :: '~' :: rest => readSets m fuel (set.combine .symmetricDifference) outer rest
    | s =>
      match readRange? m s with
      | none => none
      | some rest => readSets m fuel (set.add 0 false) outer rest

/-- Reads a set after its bracket: how deep it is nested, and the rest. -/
def read? (m : Mode) (s : List Char) : Option (Nat × List Char) :=
  match open? m s with
  | none => none
  | some (set, rest) => readSets m (rest.length + 1) set [] rest

end CharSet

end AssetSearch.Pattern
