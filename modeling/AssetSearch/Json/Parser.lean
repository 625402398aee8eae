/-
# From tokens to a value

A stack of open containers reads one token at a time; when the text ends, exactly one value must
have been read.  A container inside 127 others, and an object with an unreadable key, cannot be
read as a value, but their ends are still found.

Key definitions: `Reading` (what may come next), `Reading.step` and `Json.parse?`.
-/
import AssetSearch.Json.Token

namespace AssetSearch.Json

/-! ## Open containers -/

/-- A container whose end has not come yet, with what it holds so far in reverse.  An object also
knows the key whose value is being read. -/
inductive Open where
  | array (items : List Json)
  | object (members : List (String × Json)) (readable : Bool) (key : String)

/-- How many containers may stand in each other, the innermost one counted. -/
def maxDepth : Nat :=
  127

namespace Open

/-- Adds a completed value. -/
def add (o : Open) (v : Json) : Open :=
  match o with
  | array items => array (v :: items)
  | object members readable key => object ((key, v) :: members) readable key

/-- Notes the key of the next value. -/
def setKey (o : Open) (key : Option String) : Open :=
  match o, key with
  | object members readable _, some k => object members readable k
  | object members _ k, none => object members false k
  | o, _ => o

/-- The container as a value, once it is closed. -/
def close (o : Open) : Json :=
  match o with
  | array items => .array items.reverse
  | object members readable _ => if readable then .object members.reverse else .unreadable

end Open

/-! ## The reader -/

/-- What may come next, with the open containers, innermost first. -/
inductive Reading where
  /-- A value must come. -/
  | value (stack : List Open)
  /-- The first item of an array or its end. -/
  | firstItem (stack : List Open)
  /-- The first key of an object or its end. -/
  | firstKey (stack : List Open)
  /-- A key must come. -/
  | key (stack : List Open)
  /-- The colon behind a key. -/
  | colon (stack : List Open)
  /-- A comma or the end of the innermost container. -/
  | next (stack : List Open)
  /-- Nothing: the value is complete. -/
  | complete (v : Json)

namespace Reading

/-- A value has been completed inside the open containers. -/
def put (stack : List Open) (v : Json) : Reading :=
  match stack with
  | [] => complete v
  | o :: rest => next (o.add v :: rest)

/-- The innermost container has been closed. -/
def shut (stack : List Open) : Option Reading :=
  match stack with
  | [] => none
  | o :: rest => some (put rest (if stack.length ≤ maxDepth then o.close else .unreadable))

/-- A token where a value may stand. -/
def startValue (stack : List Open) (t : Token) : Option Reading :=
  match t with
  | .null => some (put stack .null)
  | .bool b => some (put stack (.bool b))
  | .number (some n) => some (put stack (.number n))
  | .number none => some (put stack .unreadable)
  | .string (some s) => some (put stack (.string s))
  | .string none => some (put stack .unreadable)
  | .openArray => some (firstItem (.array [] :: stack))
  | .openObject => some (firstKey (.object [] true "" :: stack))
  | _ => none

/-- A token where a key may stand. -/
def startKey (stack : List Open) (t : Token) : Option Reading :=
  match t, stack with
  | .string k, o :: rest => some (colon (o.setKey k :: rest))
  | _, _ => none

/-- One token. -/
def step (r : Reading) (t : Token) : Option Reading :=
  match r with
  | value stack => startValue stack t
  | firstItem stack => if t = .closeArray then shut stack else startValue stack t
  | firstKey stack => if t = .closeObject then shut stack else startKey stack t
  | key stack => startKey stack t
  | colon stack => if t = .colon then some (value stack) else none
  | next stack =>
    match stack, t with
    | .array _ :: _, .comma => some (value stack)
    | .array _ :: _, .closeArray => shut stack
    | .object .. :: _, .comma => some (key stack)
    | .object .. :: _, .closeObject => shut stack
    | _, _ => none
  | complete _ => none

/-- All tokens, one after the other. -/
def run (r : Reading) : List Token → Option Reading
  | [] => some r
  | t :: rest =>
    match r.step t with
    | none => none
    | some r' => run r' rest

/-- The value, if it is complete. -/
def value? : Reading → Option Json
  | complete v => some v
  | _ => none

end Reading

/-- The value of a JSON text in bytes; nothing when the bytes are not a JSON text. -/
def parse? (bytes : List UInt8) : Option Json :=
  match Token.scan? bytes with
  | none => none
  | some tokens =>
    match (Reading.value []).run tokens with
    | none => none
    | some r => r.value?

/-- The bytes of a text. -/
def bytesOf (s : String) : List UInt8 :=
  s.toUTF8.data.toList

/-- The text that bytes spell. -/
def textOf? (bytes : List UInt8) : Option String :=
  String.fromUTF8? (ByteArray.mk bytes.toArray)

/-- The value of a JSON text. -/
def parseText? (s : String) : Option Json :=
  parse? (bytesOf s)

end AssetSearch.Json
