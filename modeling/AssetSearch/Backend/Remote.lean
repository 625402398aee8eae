/-
# A backend at the other end of a connection

Every command becomes a request with the command's name and parameters; the result of the reply is
read as the command's result.  The server takes its turn when a request has been written: it sends
bytes and may hang up.  A server that has nothing more to say to a waiting call is gone.

Key definitions: `Server`, `Remote`, `Remote.call` and `Remote.backend`.
-/
import AssetSearch.Backend.Site
import AssetSearch.Wire.Client

namespace AssetSearch

open Progress (Event)
open Wire (Client Effect)

/-- What a server does in its turn. -/
structure Turn where
  /-- The bytes that it sends. -/
  bytes : List UInt8
  /-- Whether it then closes the connection. -/
  hangsUp : Bool

/-- A server with states `ω`: its turn upon a request. -/
abbrev Server (ω : Type) : Type :=
  List UInt8 → ω → Turn × ω

/-- The client and the server it talks to. -/
structure Remote (ω : Type) where
  client : Client
  server : ω

namespace Remote

variable {ω : Type}

/-- The server's turn upon the request of a call, if it was written. -/
def turn (server : Server ω) (id : Nat) (r : Remote ω) : List Event × Remote ω :=
  match r.client.request? id with
  | none => ([], r)
  | some request =>
    let k := r.client.current
    let (turn, state) := server request r.server
    let (client, effects) := r.client.receive k turn.bytes
    let client := if turn.hangsUp then client.hangUp k else client
    (effects.filterMap Effect.event?, ⟨client, state⟩)

/-- The result of a call after the server's turn; a call that still waits loses its connection. -/
def settle (id : Nat) (r : Remote ω) : Outcome Json × Remote ω :=
  match r.client.result? id with
  | some result => (result, r)
  | none =>
    let client := r.client.hangUp r.client.current
    ((client.result? id).getD (.error client.lost), { r with client := client })

/-- Calls a method: the events published meanwhile, and the result. -/
def call (server : Server ω) (method : String) (params : Json) (r : Remote ω) :
    (List Event × Outcome Json) × Remote ω :=
  let (id, client) := r.client.send method params true
  let (events, r) := turn server id { r with client := client }
  let (result, r) := settle id r
  ((events, result), r)

/-- The result of a command in a reply. -/
def resultOf (c : Command) : Outcome Json → Outcome c.Result
  | .error e => .error e
  | .ok value =>
    match c.decodeResult value with
    | .ok result => .ok result
    | .error fault => .error (.json s!"Unexpected result for {c.name}: " (some fault))

/-- The server as a backend. -/
def backend (server : Server ω) : Backend (Remote ω) :=
  fun c r =>
    let ((events, result), r) := call server c.name c.params r
    (⟨events, resultOf c result⟩, r)

end Remote

end AssetSearch
