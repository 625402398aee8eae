/-
# The client

Calls to a backend over a connection that is opened again when it has closed.  Calls may overlap: a
call takes an id of its own, then the open connection, waits there for the reply with its id, writes
its request, and ends with the reply or with the loss of the connection.  A call may be given up at
any point.

Key definitions: `Wire.Client`, its steps `begin`, `acquire`, `register`, `write`, `abandon`,
`receive` and `hangUp`, the inductive `Client.Action`, and `Client.step`.
-/
import AssetSearch.Wire.Link

namespace AssetSearch.Wire

/-! ## Calls -/

/-- What a registered call has received before its request was written. -/
inductive Mail where
  | pending
  | reply (outcome : ReplyOutcome)
  | lost

/-- How far a call is. -/
inductive Phase where
  /-- It has an id, and no connection yet. -/
  | started
  /-- It has a connection. -/
  | acquired (link : Nat)
  /-- It waits on the connection, and its request is not written yet. -/
  | registered (link : Nat) (mail : Mail)
  /-- Its request is written, and it waits for the reply. -/
  | sent (link : Nat)
  /-- It has returned. -/
  | done (result : Outcome Json)
  /-- It was given up. -/
  | abandoned

/-- How far a call is at first: a request that is too long is never sent. -/
def Phase.ofRequest (request : List UInt8) : Phase :=
  match Frame.checkLength request.length with
  | .error e => .done (.error e)
  | .ok () => .started

/-- A call. -/
structure Call where
  id : Nat
  method : String
  request : List UInt8
  phase : Phase

namespace Call

/-- The connection that the call uses while it is in flight. -/
def link? (c : Call) : Option Nat :=
  match c.phase with
  | .acquired k | .registered k _ | .sent k => some k
  | .started | .done _ | .abandoned => none

/-- The result that a reply gives to the call. -/
def resultOf (c : Call) : ReplyOutcome → Outcome Json
  | .ok v => .ok v
  | .error e => .error (.backend c.method e.message)

/-- How far the call is once its request is written. -/
def onWritten (c : Call) (failure : Failure) : Phase :=
  match c.phase with
  | .registered k .pending => .sent k
  | .registered _ (.reply outcome) => .done (c.resultOf outcome)
  | .registered _ .lost => .done (.error failure)
  | p => p

/-- How far the call is once a reply to it has arrived on a connection. -/
def onReply (c : Call) (k : Nat) (outcome : ReplyOutcome) : Phase :=
  match c.phase with
  | .registered j .pending => if j = k then .registered j (.reply outcome) else c.phase
  | .sent j => if j = k then .done (c.resultOf outcome) else c.phase
  | p => p

/-- How far the call is once a connection has closed. -/
def onLoss (c : Call) (k : Nat) (failure : Failure) : Phase :=
  match c.phase with
  | .registered j .pending => if j = k then .registered j .lost else c.phase
  | .sent j => if j = k then .done (.error failure) else c.phase
  | p => p

end Call

/-! ## Opening connections -/

/-- What comes of the attempt to open a connection. -/
inductive Dial where
  | answered
  | refused
  | timedOut

/-- How long the attempt to open a connection may take. -/
def connectTimeout : Duration :=
  .ofParts 3 0

/-- Why the attempt to open a connection has failed, if it has. -/
def Dial.failure? (address : String) : Dial → Option Failure
  | answered => none
  | refused => some (.connectionLost address)
  | timedOut => some (.timeout connectTimeout)

/-! ## Clients -/

/-- A client: its address, every connection it has opened, the next id, and its calls. -/
structure Client where
  address : String
  links : List Link
  nextId : Nat
  calls : List Call

namespace Client

/-- A client with its first connection. -/
def connected (address : String) : Client :=
  ⟨address, [.fresh], 1, []⟩

/-- Connects to a backend, if somebody answers there. -/
def connect (address : String) (reachable : Bool) : Outcome Client :=
  if reachable then .ok (connected address) else .error (.connectionLost address)

/-- The number of the connection that new calls use. -/
def current (c : Client) : Nat :=
  c.links.length - 1

/-- The connection with a number. -/
def link (c : Client) (k : Nat) : Link :=
  c.links.getD k Link.fresh.shut

/-- The loss of the connection. -/
def lost (c : Client) : Failure :=
  .connectionLost c.address

/-- Replaces a connection. -/
def setLink (c : Client) (k : Nat) (l : Link) : Client :=
  { c with links := c.links.set k l }

/-- Opens a new connection, which becomes the current one. -/
def openLink (c : Client) : Client :=
  { c with links := c.links ++ [.fresh] }

/-- Changes the calls with an id. -/
def setPhase (c : Client) (id : Nat) (f : Call → Phase) : Client :=
  { c with
    calls := c.calls.map fun call => if call.id = id then { call with phase := f call } else call }

/-- The call with an id. -/
def call? (c : Client) (id : Nat) : Option Call :=
  c.calls.find? fun call => call.id = id

/-- A connection is held while it is the current one or a call on it is in flight; otherwise it is
dropped and reads nothing more. -/
def isHeld (c : Client) (k : Nat) : Bool :=
  k = c.current || c.calls.any fun call => call.link? = some k

/-- All calls that wait on a connection learn that it has closed. -/
def loseCalls (c : Client) (k : Nat) : Client :=
  { c with calls := c.calls.map fun call => { call with phase := call.onLoss k c.lost } }

/-! ## Steps of a call -/

/-- Starts a call.  Its id is used up in any case; a request that is too long fails at once. -/
def begin (c : Client) (method : String) (params : Json) : Nat × Client :=
  let id := c.nextId
  let request := (Request.call method params id).toJson.bytes
  (id, { c with nextId := id + 1, calls := c.calls ++ [⟨id, method, request, .ofRequest request⟩] })

/-- The call takes the current connection, or a new one if that has closed. -/
def acquire (c : Client) (id : Nat) (dial : Dial) : Client :=
  match c.call? id with
  | some ⟨_, _, _, .started⟩ =>
    if (c.link c.current).closed then
      match dial.failure? c.address with
      | none => c.openLink.setPhase id fun _ => .acquired c.links.length
      | some failure => c.setPhase id fun _ => .done (.error failure)
    else c.setPhase id fun _ => .acquired c.current
  | _ => c

/-- The call waits for its reply, unless the connection has closed meanwhile. -/
def register (c : Client) (id : Nat) : Client :=
  match c.call? id with
  | some ⟨_, _, _, .acquired k⟩ =>
    match (c.link k).register id with
    | some l => (c.setLink k l).setPhase id fun _ => .registered k .pending
    | none => c.setPhase id fun _ => .done (.error c.lost)
  | _ => c

/-- The request is written, or the writing fails and closes the connection. -/
def write (c : Client) (id : Nat) (succeeds : Bool) : Client :=
  match c.call? id with
  | some ⟨_, _, _, .registered k _⟩ =>
    if succeeds then c.setPhase id fun call => call.onWritten c.lost
    else
      ((c.setPhase id fun _ => .done (.error c.lost)).setLink k (c.link k).close).loseCalls k
  | _ => c

/-- The caller gives the call up.  A request of which only a part may be written closes the
connection. -/
def abandon (c : Client) (id : Nat) (halfWritten : Bool) : Client :=
  match c.call? id with
  | none => c
  | some call =>
    match call.phase with
    | .started | .acquired _ => c.setPhase id fun _ => .abandoned
    | .registered k _ =>
      let c := c.setPhase id fun _ => .abandoned
      if halfWritten then (c.setLink k (c.link k).close).loseCalls k
      else c.setLink k ((c.link k).release id)
    | .sent k => (c.setPhase id fun _ => .abandoned).setLink k ((c.link k).release id)
    | .done _ => c
    | .abandoned => c

/-! ## Steps of a connection -/

/-- The call with an id learns its outcome. -/
def complete (c : Client) (k : Nat) (id : Nat) (outcome : ReplyOutcome) : Client :=
  c.setPhase id fun call => call.onReply k outcome

/-- The effects of a connection, in order, as far as they concern calls. -/
def applyEffects (c : Client) (k : Nat) (effects : List Effect) : Client :=
  effects.foldl (fun c effect =>
    match effect with
    | .publish _ => c
    | .complete id outcome => c.complete k id outcome) c

/-- Bytes arrive on a connection; also their effects, in order. -/
def receive (c : Client) (k : Nat) (bytes : List UInt8) : Client × List Effect :=
  if c.isHeld k then
    let (l, effects) := (c.link k).feed bytes
    let c := (c.setLink k l).applyEffects k effects
    (if l.closed then c.loseCalls k else c, effects)
  else (c, [])

/-- The other side hangs up. -/
def hangUp (c : Client) (k : Nat) : Client :=
  (c.setLink k (c.link k).shut).loseCalls k

/-! ## Runs -/

/-- What may happen to a client. -/
inductive Action where
  | begin (method : String) (params : Json)
  | acquire (id : Nat) (dial : Dial)
  | register (id : Nat)
  | write (id : Nat) (succeeds : Bool)
  | abandon (id : Nat) (halfWritten : Bool)
  | receive (link : Nat) (bytes : List UInt8)
  | hangUp (link : Nat)

/-- One step; also its effects, in order. -/
def step (c : Client) : Action → Client × List Effect
  | .begin method params => ((c.begin method params).2, [])
  | .acquire id dial => (c.acquire id dial, [])
  | .register id => (c.register id, [])
  | .write id succeeds => (c.write id succeeds, [])
  | .abandon id halfWritten => (c.abandon id halfWritten, [])
  | .receive k bytes => c.receive k bytes
  | .hangUp k => (c.hangUp k, [])

/-- The result of a call, once it has returned. -/
def result? (c : Client) (id : Nat) : Option (Outcome Json) :=
  match c.call? id with
  | some ⟨_, _, _, .done r⟩ => some r
  | _ => none

/-- The request of a call, if it was sent. -/
def request? (c : Client) (id : Nat) : Option (List UInt8) :=
  match c.call? id with
  | some ⟨_, _, request, .registered ..⟩ => some request
  | some ⟨_, _, request, .sent _⟩ => some request
  | _ => none

/-- Starts a call, registers it and writes its request, with nothing in between. -/
def send (c : Client) (method : String) (params : Json) (reachable : Bool) : Nat × Client :=
  let (id, c) := c.begin method params
  let c := c.acquire id (if reachable then .answered else .refused)
  (id, (c.register id).write id true)

end Client

end AssetSearch.Wire
