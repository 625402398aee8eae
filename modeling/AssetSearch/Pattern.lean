/-
# Patterns of texts

Which texts are patterns that an automaton can look for: sequences and alternatives of characters,
sets and groups, each of them perhaps repeated, and all of it not nested too deep.  Counted
repetitions are not read, because their brackets end the text that a pattern stands in; the limits
of words are not looked for, because an automaton cannot tell them outside of bytes; and no pattern
may stop inside of a character.

Key definitions: `Pattern.Reading`, `Reading.step?` and `Pattern.isValid`.
-/
import AssetSearch.Pattern.CharSet
import AssetSearch.Text.Letter

namespace AssetSearch.Pattern

/-- What was read of a group, or of the whole pattern: how many parts the current alternative has
and how deep they are nested, how deep the part at its end is that can be repeated, if one can, and
how deep the alternatives before it are. -/
structure Alternatives where
  size : Nat := 0
  depth : Nat := 0
  last : Option Nat := none
  before : Option Nat := none
  deriving DecidableEq, Repr

namespace Alternatives

/-- Adds a part. -/
def add (a : Alternatives) (depth : Nat) : Alternatives :=
  { a with size := a.size + 1, depth := max a.depth depth, last := some depth }

/-- Adds flags, which cannot be repeated. -/
def addFlags (a : Alternatives) : Alternatives :=
  { a with size := a.size + 1, last := none }

/-- Repeats the last part. -/
def repeat? (a : Alternatives) : Option Alternatives :=
  a.last.map fun d => { a with depth := max a.depth (d + 1), last := some (d + 1) }

/-- How deep the current alternative is nested; several parts are one level of their own. -/
def currentDepth (a : Alternatives) : Nat :=
  if a.size ≤ 1 then a.depth else a.depth + 1

/-- Begins another alternative. -/
def alternate (a : Alternatives) : Alternatives :=
  { before := some (max (a.before.getD 0) a.currentDepth) }

/-- How deep all alternatives are nested; several alternatives are one level of their own. -/
def closedDepth (a : Alternatives) : Nat :=
  match a.before with
  | none => a.currentDepth
  | some d => max d a.currentDepth + 1

end Alternatives

/-- What is known after the beginning of a pattern was read. -/
structure Reading where
  mode : Mode := {}
  inner : Alternatives := {}
  /-- The modes and the parts outside of the open groups, the innermost one first. -/
  outer : List (Mode × Alternatives) := []
  /-- The names of groups. -/
  names : List (List Char) := []

namespace Reading

/-- How deep the parts of a pattern may be nested. -/
def depthLimit : Nat :=
  250

/-- A part that can be repeated was read. -/
def add (r : Reading) (depth : Nat) : Reading :=
  { r with inner := r.inner.add depth }

/-- A group begins. -/
def enter (r : Reading) (mode : Mode) : Reading :=
  { r with mode, inner := {}, outer := (r.mode, r.inner) :: r.outer }

/-- Whether a name can be that of a group: a letter or a low line first, then also numbers, dots and
square brackets. -/
def isGroupName (name : List Char) : Bool :=
  match name with
  | [] => false
  | c :: rest =>
    (c == '_' || Text.isAlphabetic c) &&
      rest.all fun c => ['_', '.', '[', ']'].contains c || Text.isAlphanumeric c

/-- Reads the name of a group. -/
def readName? (r : Reading) (s : List Char) : Option (Reading × List Char) :=
  let isInName (c : Char) := c != '>'
  let name := s.takeWhile isInName
  match s.dropWhile isInName with
  | [] => none
  | _ :: rest =>
    if isGroupName name && !r.names.contains name then
      some ({ r.enter r.mode with names := name :: r.names }, rest)
    else none

/-- Reads the beginning of a group, or flags, after the bracket. -/
def readGroup? (r : Reading) (s : List Char) : Option (Reading × List Char) :=
  match r.mode.skip s with
  | '?' :: '=' :: _ | '?' :: '!' :: _ | '?' :: '<' :: '=' :: _ | '?' :: '<' :: '!' :: _ => none
  | '?' :: 'P' :: '<' :: rest | '?' :: '<' :: rest => r.readName? rest
  | '?' :: rest =>
    match r.mode.readFlags [] false false rest with
    | none => none
    | some (mode, true, rest) => some (r.enter mode, rest)
    | some (mode, false, rest) => some ({ r with mode, inner := r.inner.addFlags }, rest)
  | rest => some (r.enter r.mode, rest)

/-- Whether an escape outside of sets can be looked for. -/
def isSearchable (m : Mode) : Escape → Bool
  | .literal c asByte => m.unicode || c.toNat < 128 || !(asByte || m.caseless)
  | .shorthand negated => m.unicode || !negated
  | .category => m.unicode
  | .edge => true
  | .wordEdge => !m.unicode

/-- Reads one part of a pattern. -/
def step? (r : Reading) : List Char → Option (Reading × List Char)
  | [] => none
  | c :: rest =>
    match c with
    | '(' => r.readGroup? rest
    | ')' =>
      match r.outer with
      | [] => none
      | (mode, around) :: outer =>
        some ({ r with mode, inner := around.add (r.inner.closedDepth + 1), outer }, rest)
    | '|' => some ({ r with inner := r.inner.alternate }, rest)
    | '[' => (CharSet.read? r.mode rest).map fun x => (r.add x.1, x.2)
    | '?' | '*' | '+' =>
      match r.inner.repeat? with
      | none => none
      | some inner =>
        match rest with
        | '?' :: rest => some ({ r with inner }, rest)
        | rest => some ({ r with inner }, rest)
    | '\x7b' => none
    | '\\' =>
      match Escape.read? r.mode rest with
      | none => none
      | some (e, rest) => if isSearchable r.mode e then some (r.add 0, rest) else none
    | '.' => if r.mode.unicode then some (r.add 0, rest) else none
    | '^' | '$' => some (r.add 0, rest)
    | c => if isSearchable r.mode (.literal c false) then some (r.add 0, rest) else none

/-- Whether the rest of a text completes a pattern; `fuel` exceeds its length. -/
def completes : Nat → Reading → List Char → Bool
  | 0, _, _ => false
  | fuel + 1, r, s =>
    match r.mode.skip s with
    | [] => r.outer.isEmpty && r.inner.closedDepth ≤ depthLimit
    | s =>
      match r.step? s with
      | none => false
      | some (r, rest) => completes fuel r rest

end Reading

/-- Whether a text is a pattern. -/
def isValid (s : List Char) : Bool :=
  Reading.completes (s.length + 1) {} s

end AssetSearch.Pattern
