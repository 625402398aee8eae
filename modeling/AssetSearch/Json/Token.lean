/-
# JSON tokens

A text of bytes is cut into structural characters, strings and scalars by one pass of an automaton.
Between tokens stands white space (space, tab, line feed, carriage return).  A string ends at its
closing quote, holds no control character and only the eight short escapes and `\u` with four
hexadecimal digits; it is unreadable when its bytes are not UTF-8 or when a surrogate escape stands
without its partner.  A scalar is a maximal run of other bytes, and must be a literal or a number.

Key definitions: `Token`, `Lexer` (the automaton's state), `Lexer.step` and `Token.scan?`.
-/
import AssetSearch.Json.Number

namespace AssetSearch.Json

/-! ## Tokens -/

/-- A token.  A string or a number that is well formed but has no value carries none. -/
inductive Token where
  | openArray
  | closeArray
  | openObject
  | closeObject
  | colon
  | comma
  | null
  | bool (b : Bool)
  | number (n : Option Number)
  | string (s : Option String)
  deriving DecidableEq

/-- The character that a byte below `0x80` stands for; larger bytes give a character that no
scalar token contains. -/
def charOfByte (b : UInt8) : Char :=
  Char.ofNat b.toNat

/-- The token of a run of characters that are neither structural nor quoted. -/
def scalar? (s : List Char) : Option Token :=
  if s = ['n', 'u', 'l', 'l'] then some .null
  else if s = ['t', 'r', 'u', 'e'] then some (.bool true)
  else if s = ['f', 'a', 'l', 's', 'e'] then some (.bool false)
  else (Number.literal? s).map fun l => .number l.value?

/-- The token of one structural character. -/
def structural? (c : Char) : Option Token :=
  match c with
  | '[' => some .openArray
  | ']' => some .closeArray
  | '\x7b' => some .openObject
  | '\x7d' => some .closeObject
  | ':' => some .colon
  | ',' => some .comma
  | _ => none

/-- The white space between tokens. -/
def isSpace (c : Char) : Bool :=
  c == ' ' || c == '\t' || c == '\n' || c == '\r'

/-! ## Strings -/

/-- What has been read of a string: its bytes in reverse, whether it can still be read, and a
leading surrogate that waits for its partner. -/
structure Partial where
  bytes : List UInt8
  readable : Bool
  surrogate : Option Nat

namespace Partial

/-- A string of which nothing has been read. -/
def empty : Partial :=
  ⟨[], true, none⟩

/-- The string once nothing can complete a waiting surrogate. -/
def settle (p : Partial) : Partial :=
  match p.surrogate with
  | none => p
  | some _ => { p with readable := false, surrogate := none }

/-- Adds one byte. -/
def push (p : Partial) (b : UInt8) : Partial :=
  let q := p.settle
  { q with bytes := b :: q.bytes }

/-- Adds the bytes of one character. -/
def pushChar (p : Partial) (c : Char) : Partial :=
  { p with bytes := (String.utf8EncodeChar c).reverse ++ p.bytes }

/-- Adds the code unit of a `\u` escape: a surrogate pair makes one character. -/
def pushUnit (p : Partial) (n : Nat) : Partial :=
  match p.surrogate with
  | some high =>
    if 0xDC00 ≤ n ∧ n ≤ 0xDFFF then
      { p with surrogate := none }.pushChar
        (Char.ofNat (0x10000 + (high - 0xD800) * 0x400 + (n - 0xDC00)))
    else { p with readable := false, surrogate := none }
  | none =>
    if 0xD800 ≤ n ∧ n ≤ 0xDBFF then { p with surrogate := some n }
    else if 0xDC00 ≤ n ∧ n ≤ 0xDFFF then { p with readable := false }
    else p.pushChar (Char.ofNat n)

/-- The string, if it can be read. -/
def finish (p : Partial) : Option String :=
  let q := p.settle
  if q.readable then String.fromUTF8? (ByteArray.mk q.bytes.reverse.toArray) else none

end Partial

/-- The byte that a short escape stands for. -/
def shortEscape? (c : Char) : Option UInt8 :=
  match c with
  | '"' => some 0x22
  | '\\' => some 0x5C
  | '/' => some 0x2F
  | 'b' => some 0x08
  | 'f' => some 0x0C
  | 'n' => some 0x0A
  | 'r' => some 0x0D
  | 't' => some 0x09
  | _ => none

/-- The value of a hexadecimal digit. -/
def hexDigit? (c : Char) : Option Nat :=
  if '0' ≤ c ∧ c ≤ '9' then some (c.toNat - '0'.toNat)
  else if 'a' ≤ c ∧ c ≤ 'f' then some (c.toNat - 'a'.toNat + 10)
  else if 'A' ≤ c ∧ c ≤ 'F' then some (c.toNat - 'A'.toNat + 10)
  else none

/-! ## The automaton -/

/-- Where the automaton stands. -/
inductive Lexer where
  /-- Between two tokens. -/
  | between
  /-- In a scalar, whose characters so far are given in reverse. -/
  | scalar (seen : List Char)
  /-- In a string. -/
  | string (text : Partial)
  /-- In a string, behind a backslash. -/
  | escape (text : Partial)
  /-- In a string, in a `\u` escape that lacks `left + 1` digits. -/
  | unit (text : Partial) (left : Nat) (value : Nat)

namespace Lexer

/-- The tokens that end where a token boundary is reached, newest first. -/
def finish? (l : Lexer) : Option (List Token) :=
  match l with
  | between => some []
  | scalar seen => (scalar? seen.reverse).map fun t => [t]
  | _ => none

/-- One step outside of strings: a boundary ends a scalar, every other character goes into one. -/
def outside (l : Lexer) (seen : List Char) (c : Char) : Option (Lexer × List Token) :=
  if c = '"' then l.finish?.map fun ts => (string .empty, ts)
  else if isSpace c then l.finish?.map fun ts => (between, ts)
  else
    match structural? c with
    | some t => l.finish?.map fun ts => (between, t :: ts)
    | none => some (scalar (c :: seen), [])

/-- One step: the next state and the tokens completed by the byte, newest first. -/
def step (l : Lexer) (b : UInt8) : Option (Lexer × List Token) :=
  let c := charOfByte b
  match l with
  | between => outside between [] c
  | scalar seen => outside (scalar seen) seen c
  | string p =>
    if c = '"' then some (between, [.string p.finish])
    else if c = '\\' then some (escape p, [])
    else if c < ' ' then none
    else some (string (p.push b), [])
  | escape p =>
    if c = 'u' then some (unit p 3 0, [])
    else (shortEscape? c).map fun e => (string (p.push e), [])
  | unit p left value =>
    match hexDigit? c with
    | none => none
    | some d =>
      match left with
      | 0 => some (string (p.pushUnit (16 * value + d)), [])
      | n + 1 => some (unit p n (16 * value + d), [])

/-- Runs the automaton over the bytes; `done` are the tokens so far, newest first. -/
def run (l : Lexer) (done : List Token) : List UInt8 → Option (List Token)
  | [] => l.finish?.map fun ts => (ts ++ done).reverse
  | b :: rest =>
    match l.step b with
    | none => none
    | some (l', ts) => run l' (ts ++ done) rest

end Lexer

/-- The tokens of a text; nothing when the text cannot be cut into tokens. -/
def Token.scan? (bytes : List UInt8) : Option (List Token) :=
  Lexer.between.run [] bytes

end AssetSearch.Json
