/-
# Directives

A directive says up to which level messages are written, and for which of them: a target, that is,
a part of the program by its name; in square brackets a span, that is, work in progress by its name;
and in curly brackets, there, a field.

A directive is read from its trimmed text, but its parts are cut out of the text as it was given, at
the places found in the trimmed one.  Blanks before a directive therefore shift its parts.

Key definitions: `Diagnostics.Directive`, `Directive.parse?`, `Directive.isGeneral` and
`Directive.outranks`.
-/
import AssetSearch.Diagnostics.Field
import AssetSearch.Diagnostics.Level

namespace AssetSearch.Diagnostics

/-- The most detailed rank for messages of a target, in a span, with a field. -/
structure Directive where
  target : Option (List Char)
  span : Option (List Char)
  field : Option Field
  rank : Nat
  deriving DecidableEq, Repr

namespace Directive

/-! ## Cutting by bytes -/

/-- The number of bytes of a text. -/
def byteCount (s : List Char) : Nat :=
  s.foldl (fun n c => n + c.utf8Size) 0

/-- The text from a byte on, unless that is inside a character or past the end. -/
def dropBytes? : Nat → List Char → Option (List Char)
  | 0, s => some s
  | _ + 1, [] => none
  | n + 1, c :: rest => if c.utf8Size ≤ n + 1 then dropBytes? (n + 1 - c.utf8Size) rest else none

/-- The text before a byte, unless that is inside a character or past the end. -/
def takeBytes? : Nat → List Char → Option (List Char)
  | 0, _ => some []
  | _ + 1, [] => none
  | n + 1, c :: rest =>
    if c.utf8Size ≤ n + 1 then (takeBytes? (n + 1 - c.utf8Size) rest).map (c :: ·) else none

/-- The text between two bytes. -/
def cut? (s : List Char) (start stop : Nat) : Option (List Char) :=
  (dropBytes? start s).bind (takeBytes? (stop - start))

/-! ## Reading -/

/-- Where the reading of a directive stands; parts that have begun tell at which byte. -/
inductive Stage where
  | start
  | target (first : Nat)
  | span (first : Nat)
  | field (first : Nat)
  | afterField
  | afterSpan
  | level (first : Nat)
  deriving DecidableEq, Repr

/-- The parts that have been read. -/
structure Parts where
  target : Option (List Char) := none
  span : Option (List Char) := none
  field : Option Field := none
  deriving DecidableEq, Repr

/-- Whether a directive can start with a character. -/
def isStart (c : Char) : Bool :=
  c == '-' || c == ':' || c == '_' || Text.isAlphanumeric c

/-- Reads one character, which stands at a byte of the trimmed text. -/
def step? (given : List Char) (stage : Stage) (parts : Parts) (here : Nat) (c : Char) :
    Option (Stage × Parts) :=
  match stage with
  | .start =>
    if c = '[' then some (.span (here + 1), parts)
    else if isStart c then some (.target here, parts)
    else none
  | .target first =>
    if c = '=' then
      (cut? given first here).map fun t => (.level (here + 1), { parts with target := some t })
    else if c = '[' then
      (cut? given first here).map fun t => (.span (here + 1), { parts with target := some t })
    else some (stage, parts)
  | .span first =>
    if c = ']' then
      (cut? given first here).map fun s => (.afterSpan, { parts with span := some s })
    else if c = '\x7b' then
      (cut? given first here).map fun s =>
        (.field (here + 1), { parts with span := if s.isEmpty then none else some s })
    else some (stage, parts)
  | .field first =>
    if c = '\x7d' then
      match cut? given first here with
      | none | some [] => none
      | some text => (Field.read? text).map fun f => (.afterField, { parts with field := some f })
    else some (stage, parts)
  | .afterField => if c = ']' then some (.afterSpan, parts) else none
  | .afterSpan => if c = '=' then some (.level (here + 1), parts) else none
  | .level _ => some (stage, parts)

/-- Reads the characters from a byte of the trimmed text on. -/
def run? (given : List Char) (stage : Stage) (parts : Parts) (here : Nat) :
    List Char → Option (Stage × Parts)
  | [] => some (stage, parts)
  | c :: rest =>
    match step? given stage parts here c with
    | none => none
    | some (stage, parts) => run? given stage parts (here + c.utf8Size) rest

/-- The directive after its last character.  A text without other parts is a level or else a target;
a target, a span or a field without a level allow everything. -/
def finish? (given : List Char) (parts : Parts) : Stage → Option Directive
  | .target first =>
    (dropBytes? first given).map fun text =>
      match rank? text with
      | some rank => ⟨none, none, none, rank⟩
      | none => ⟨some text, none, none, Level.trace.rank⟩
  | .level first =>
    (dropBytes? first given).bind fun text =>
      let rank := if text.isEmpty then some Level.trace.rank else rank? text
      rank.map fun rank => ⟨parts.target, parts.span, parts.field, rank⟩
  | .afterSpan => some ⟨parts.target, parts.span, parts.field, Level.trace.rank⟩
  | _ => none

/-- Reads a directive. -/
def parse? (s : List Char) : Option Directive :=
  match run? s .start {} 0 (Text.strip s) with
  | none => none
  | some (stage, parts) => finish? s parts stage

/-! ## Choosing -/

/-- Whether a directive holds outside of spans and whatever the values of fields are. -/
def isGeneral (d : Directive) : Bool :=
  d.span.isNone && d.field.all fun f => f.value.isNone

/-- Whether a directive is for a target: its own target is the beginning of it. -/
def fits (d : Directive) (target : List Char) : Bool :=
  d.target.all fun t => t.isPrefixOf target

/-- The length of the target, where no target is shorter than every one. -/
def reach (d : Directive) : Nat :=
  match d.target with
  | none => 0
  | some t => byteCount t + 1

/-- Whether a directive decides and not an earlier one that also fits: a longer target does, then a
field, then the field whose name is not before the other one. -/
def outranks (d earlier : Directive) : Bool :=
  if d.reach = earlier.reach then
    match d.field, earlier.field with
    | none, none => true
    | none, some _ => false
    | some _, none => true
    | some f, some g => !decide (f.name < g.name)
  else earlier.reach < d.reach

end Directive

end AssetSearch.Diagnostics
