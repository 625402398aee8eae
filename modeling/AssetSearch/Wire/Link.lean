/-
# One connection

The receiving side of a connection.  Bytes arrive in pieces of any size; every frame that is
complete is read at once.  A notification on the progress channel publishes its event, and a reply
completes the waiting call with its id.  A frame that is too long or cannot be understood ends the
reading, as does the other side when it hangs up; then the connection is closed and nothing waits on
it any more.

Key definitions: `Wire.Link`, `Link.handle` (one message), `Link.feed` (bytes), `Link.shut`.
-/
import AssetSearch.Progress.Event
import AssetSearch.Wire.Frame
import AssetSearch.Wire.Message

namespace AssetSearch.Wire

/-! ## Effects -/

/-- What a message does outside of the connection. -/
inductive Effect where
  /-- An event goes to the bus. -/
  | publish (e : Progress.Event)
  /-- The call with the id has its outcome. -/
  | complete (id : Nat) (outcome : ReplyOutcome)

/-- The event that an effect publishes. -/
def Effect.event? : Effect → Option Progress.Event
  | publish e => some e
  | complete _ _ => none

/-- The channel on which the backend sends events. -/
def eventChannel : String :=
  "export-progress"

/-- The event that a notification carries, if it is one on the progress channel. -/
def eventOf? (method : String) (params : Json) : Option Progress.Event :=
  if method = eventChannel then (Progress.Event.ofJson params).toOption else none

/-! ## Connections -/

/-- A connection as its reader sees it. -/
structure Link where
  /-- Whether it accepts no more calls. -/
  closed : Bool
  /-- Whether arriving bytes are still read. -/
  reading : Bool
  /-- Bytes that do not make a whole frame yet. -/
  buffer : List UInt8
  /-- The ids of the calls that wait for a reply. -/
  waiting : List Nat

namespace Link

/-- A fresh connection. -/
def fresh : Link :=
  ⟨false, true, [], []⟩

/-- Makes a call wait for the reply with its id; a closed connection takes no call. -/
def register (l : Link) (id : Nat) : Option Link :=
  if l.closed then none else some { l with waiting := l.waiting ++ [id] }

/-- No call waits for the reply with an id any more. -/
def release (l : Link) (id : Nat) : Link :=
  { l with waiting := l.waiting.filter (· ≠ id) }

/-- Closes the connection for calls; its waiting calls are lost. -/
def close (l : Link) : Link :=
  { l with closed := true, waiting := [] }

/-- Ends the reading, and closes the connection with it. -/
def shut (l : Link) : Link :=
  { l.close with reading := false, buffer := [] }

/-- One message. -/
def handle (l : Link) (m : Incoming) : Link × List Effect :=
  match m with
  | .notification method params =>
    (l, (eventOf? method params).toList.map Effect.publish)
  | .reply none _ => (l, [])
  | .reply (some id) outcome =>
    if id ∈ l.waiting then (l.release id, [.complete id outcome]) else (l, [])

/-- Reads the complete frames at the start of some bytes; the rest waits for more. -/
def drain (l : Link) (bytes : List UInt8) : Link × List Effect :=
  match _h : Frame.read bytes with
  | .frame payload rest =>
    match Incoming.ofBytes payload with
    | .error _ => (l.shut, [])
    | .ok m =>
      let (l', effects) := l.handle m
      let (l'', more) := drain l' rest
      (l'', effects ++ more)
  | .oversized _ _ => (l.shut, [])
  | .done => ({ l with buffer := bytes }, [])
  | .cut => ({ l with buffer := bytes }, [])
termination_by bytes.length
decreasing_by exact Frame.length_lt_of_read _h

/-- Bytes arrive. -/
def feed (l : Link) (bytes : List UInt8) : Link × List Effect :=
  if l.reading then l.drain (l.buffer ++ bytes) else (l, [])

end Link

end AssetSearch.Wire
