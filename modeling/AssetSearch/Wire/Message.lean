/-
# Messages

What travels between the program and its backend: requests with an id, replies to them, and
notifications, which answer nothing.  An arriving object is a notification when it names a method
and carries no id, and a reply otherwise.

Key definitions: `Wire.Request`, `Wire.RemoteError`, `Wire.Incoming`, `Wire.Incoming.ofJson`,
`Wire.Incoming.ofBytes`.
-/
import AssetSearch.Failure
import AssetSearch.Json.Decode

namespace AssetSearch.Wire

/-! ## Requests -/

/-- The version of the protocol that every request names. -/
def version : String :=
  "2.0"

/-- A request. -/
structure Request where
  version : String
  method : String
  params : Json
  id : Option Nat

namespace Request

/-- A request that wants a reply. -/
def call (method : String) (params : Json) (id : Nat) : Request :=
  ⟨Wire.version, method, params, some id⟩

/-- How a request is read. -/
def reader : RecordReader Request :=
  mk <$> .required "jsonrpc" Json.toStr
    <*> .required "method" Json.toStr
    <*> .optional "params" .null Json.toValue
    <*> .optional "id" none (Json.toOption Json.toNat64)

/-- Reads a request from data. -/
def ofJson : Json → Decoded Request :=
  reader.read "IpcRequest"

/-- The request as data. -/
def toJson (r : Request) : Json :=
  .object (Json.member "jsonrpc" (.string r.version) ++ Json.member "method" (.string r.method) ++
    Json.member "params" r.params ++ Json.memberIfSome "id" .ofNat r.id)

end Request

/-! ## Errors of the other side -/

/-- The error that a reply carries. -/
structure RemoteError where
  code : Int
  message : String
  data : Option Json

namespace RemoteError

/-- How an error is read. -/
def reader : RecordReader RemoteError :=
  mk <$> .required "code" Json.toInt32
    <*> .required "message" Json.toStr
    <*> .optional "data" none (Json.toOption Json.toValue)

/-- Reads an error from data. -/
def ofJson : Json → Decoded RemoteError :=
  reader.read "IpcError"

/-- The error as data. -/
def toJson (e : RemoteError) : Json :=
  .object (Json.member "code" (.ofInt e.code) ++ Json.member "message" (.string e.message) ++
    Json.memberIfSome "data" id e.data)

end RemoteError

/-! ## What arrives -/

/-- Anything that the other side may send, before it is told apart. -/
structure Envelope where
  method : Option String
  params : Option Json
  id : Option Json
  result : Option Json
  error : Option RemoteError

namespace Envelope

/-- How an envelope is read. -/
def reader : RecordReader Envelope :=
  mk <$> .optional "method" none (Json.toOption Json.toStr)
    <*> .optional "params" none (Json.toOption Json.toValue)
    <*> .optional "id" none (Json.toOption Json.toValue)
    <*> .optional "result" none (Json.toOption Json.toValue)
    <*> .optional "error" none (Json.toOption RemoteError.ofJson)

end Envelope

/-- The outcome that a reply carries. -/
abbrev ReplyOutcome : Type :=
  Except RemoteError Json

/-- A message of the other side. -/
inductive Incoming where
  /-- An answer; its id is missing when it is no natural number of 64 bits. -/
  | reply (id : Option Nat) (outcome : ReplyOutcome)
  | notification (method : String) (params : Json)

/-- The id of a reply, if it is one that a request can have. -/
def idOf? : Json → Option Nat
  | .number (.integer n) => if 0 ≤ n then some n.toNat else none
  | _ => none

namespace Incoming

/-- The message in an envelope. -/
def ofEnvelope (e : Envelope) : Incoming :=
  match e.method, e.id with
  | some method, none => notification method (e.params.getD .null)
  | _, id =>
    reply (id.bind idOf?)
      (match e.error with
        | some err => .error err
        | none => .ok (e.result.getD .null))

/-- Reads a message from data. -/
def ofJson (j : Json) : Decoded Incoming :=
  (Envelope.reader.read "Envelope" j).map ofEnvelope

/-- Reads a message from the bytes of a frame. -/
def ofBytes (bytes : List UInt8) : Outcome Incoming :=
  match Json.decodeBytes ofJson bytes with
  | .ok m => .ok m
  | .error fault => .error (.json "Failed to parse IPC frame: " (some fault))

end Incoming

end AssetSearch.Wire
