/-
# The moments of a run

A step of a client may do several things at once: bytes that arrive can hold many messages, and a
request that cannot be written also closes its connection.  A moment is one of these things, and a
step is the sequence of its moments.

Key definitions: `Client.Moment`, `Client.advance` (what a moment does), `Client.moments` (the
moments of a step), `Client.run` and `Client.unroll` (a run and its moments).  Key statements:
`change_advance` and `occurs_of_mem`, from which what all moments keep follows by cases.
-/
import AssetSearch.Proofs.Wire.Streams
import AssetSearch.Proofs.Wire.Views

namespace AssetSearch.Wire

namespace Client

/-! ## Moments -/

/-- One thing that happens to a client. -/
inductive Moment where
  /-- A call starts. -/
  | begun (method : String) (params : Json)
  /-- A call asks for a connection. -/
  | acquired (id : Nat) (dial : Dial)
  /-- A call asks to wait on its connection. -/
  | registered (id : Nat)
  /-- The request of a call is written. -/
  | sent (id : Nat)
  /-- The request of a call cannot be written. -/
  | failed (id : Nat)
  /-- A call is given up. -/
  | dropped (id : Nat)
  /-- The reader of a connection has read a message. -/
  | heard (link : Nat) (m : Incoming)
  /-- The reader of a connection keeps the bytes of an incomplete frame. -/
  | kept (link : Nat) (bytes : List UInt8)
  /-- A connection closes for calls. -/
  | closed (link : Nat)
  /-- The reader of a connection stops. -/
  | stopped (link : Nat)

/-- The request of a call cannot be written: the call is lost. -/
def fail (c : Client) (id : Nat) : Client :=
  match c.call? id with
  | some ⟨_, _, _, .registered k _⟩ =>
    (c.setPhase id fun _ => .done (.error c.lost)).setLink k ((c.link k).release id)
  | _ => c

/-- The reader of a connection has read a message. -/
def hear (c : Client) (k : Nat) (m : Incoming) : Client :=
  let (l, effects) := (c.link k).handle m
  (c.setLink k l).applyEffects k effects

/-- A reply reaches the call that waits for it, and nothing happens if there is none. -/
theorem hear_reply (c : Client) (k id : Nat) (outcome : ReplyOutcome) :
    c.hear k (.reply (some id) outcome) =
      if id ∈ (c.link k).waiting then
        (c.setPhase id fun call => call.onReply k outcome).setLink k ((c.link k).release id)
      else c := by
  by_cases h : id ∈ (c.link k).waiting
  · rw [if_pos h, hear, Link.handle, if_pos h]
    rfl
  · rw [if_neg h, hear, Link.handle, if_neg h]
    exact setLink_link c k

/-- A message that is no reply with an id does not change the client. -/
theorem hear_other (c : Client) (k : Nat) {m : Incoming}
    (h : ∀ id outcome, m ≠ .reply (some id) outcome) : c.hear k m = c := by
  cases m with
  | notification method params =>
    rw [hear, Link.handle]
    cases eventOf? method params <;> exact setLink_link c k
  | reply id outcome =>
    cases id with
    | none => exact setLink_link c k
    | some id => exact absurd rfl (h id outcome)

/-- A message is a reply with an id, or it does not change the client. -/
theorem hear_cases (c : Client) (k : Nat) (m : Incoming) :
    (∃ id outcome, m = .reply (some id) outcome) ∨ c.hear k m = c := by
  by_cases h : ∃ id outcome, m = .reply (some id) outcome
  · exact .inl h
  · exact .inr (hear_other c k fun id outcome hm => h ⟨id, outcome, hm⟩)

/-- What a moment does. -/
def advance (c : Client) : Moment → Client
  | .begun method params => (c.begin method params).2
  | .acquired id dial => c.acquire id dial
  | .registered id => c.register id
  | .sent id => c.write id true
  | .failed id => c.fail id
  | .dropped id => c.abandon id false
  | .heard k m => c.hear k m
  | .kept k bytes => c.setLink k { c.link k with buffer := bytes }
  | .closed k => (c.setLink k (c.link k).close).loseCalls k
  | .stopped k => c.hangUp k

/-- Whether a call starts at a moment. -/
def Moment.starts : Moment → Bool
  | .begun .. => true
  | _ => false

/-- What a moment can do: a call starts, one call changes its phase and perhaps opens a connection
or moves in the table of one, some bytes are kept, or a connection closes. -/
inductive Change (c : Client) : Moment → Client → Prop
  | begun (method : String) (params : Json) :
    Change c (.begun method params) (c.begin method params).2
  | same (m : Moment) (h : m.starts = false) : Change c m c
  | moved (m : Moment) (h : m.starts = false) (id : Nat) (f : Call → Phase) :
    Change c m (c.setPhase id f)
  | opened (id : Nat) (dial : Dial) (f : Call → Phase) :
    Change c (.acquired id dial) (c.openLink.setPhase id f)
  | listed (m : Moment) (h : m.starts = false) (id : Nat) (f : Call → Phase) (k : Nat) (l : Link)
    (hclosed : l.closed = (c.link k).closed) (hreading : l.reading = (c.link k).reading)
    (hbuffer : l.buffer = (c.link k).buffer) :
    Change c m ((c.setPhase id f).setLink k l)
  | kept (k : Nat) (bytes : List UInt8) :
    Change c (.kept k bytes) (c.setLink k { c.link k with buffer := bytes })
  | closed (k : Nat) : Change c (.closed k) ((c.setLink k (c.link k).close).loseCalls k)
  | stopped (k : Nat) : Change c (.stopped k) ((c.setLink k (c.link k).shut).loseCalls k)

/-- **Every moment is one of these changes.** -/
theorem change_advance (c : Client) (m : Moment) : c.Change m (c.advance m) := by
  cases m with
  | begun method params => exact .begun method params
  | acquired id dial =>
    rw [advance, acquire]
    split
    · split
      · split
        · exact .opened id dial _
        · exact .moved _ rfl id _
      · exact .moved _ rfl id _
    · exact .same _ rfl
  | registered id =>
    rw [advance, register]
    split
    · next k _ =>
      split
      · next l hl =>
        unfold Link.register at hl
        split at hl
        · cases hl
        · obtain rfl := Option.some.inj hl
          -- an open connection takes the id into its table, and stays open
          exact .listed _ rfl id (fun _ => .registered k .pending) k _ rfl rfl rfl
      · exact .moved _ rfl id _
    · exact .same _ rfl
  | sent id =>
    rw [advance, write]
    split
    · exact .moved _ rfl id _
    · exact .same _ rfl
  | failed id =>
    rw [advance, fail]
    split
    · exact .listed _ rfl id _ _ _ rfl rfl rfl
    · exact .same _ rfl
  | dropped id =>
    rw [advance, abandon]
    split
    · exact .same _ rfl
    · split
      · exact .moved _ rfl id _
      · exact .moved _ rfl id _
      · exact .listed _ rfl id _ _ _ rfl rfl rfl
      · exact .listed _ rfl id _ _ _ rfl rfl rfl
      · exact .same _ rfl
      · exact .same _ rfl
  | heard k m =>
    rw [advance]
    rcases hear_cases c k m with ⟨id, outcome, rfl⟩ | hm
    · rw [hear_reply]
      split
      · exact .listed _ rfl id _ k _ rfl rfl rfl
      · exact .same _ rfl
    · rw [hm]
      exact .same _ rfl
  | kept k bytes => exact .kept k bytes
  | closed k => exact .closed k
  | stopped k => exact .stopped k

/-- A client keeps its address. -/
theorem address_advance (c : Client) (m : Moment) : (c.advance m).address = c.address := by
  have h := change_advance c m
  generalize c.advance m = c' at h
  cases h <;> rfl

theorem lost_advance (c : Client) (m : Moment) : (c.advance m).lost = c.lost := by
  rw [lost, lost, address_advance]

/-- The client after some moments. -/
def after (c : Client) (ms : List Moment) : Client :=
  ms.foldl advance c

@[simp] theorem after_nil (c : Client) : c.after [] = c := rfl

@[simp] theorem after_cons (c : Client) (m : Moment) (ms : List Moment) :
    c.after (m :: ms) = (c.advance m).after ms := rfl

theorem after_append (c : Client) (ms ms' : List Moment) :
    c.after (ms ++ ms') = (c.after ms).after ms' := by
  rw [after, after, after, List.foldl_append]

/-! ## Runs -/

/-- How the reading of some bytes ends: something is kept, or the reader stops. -/
def ending (k : Nat) : Option (List UInt8) → Moment
  | some bytes => .kept k bytes
  | none => .stopped k

/-- The moments of a step. -/
def moments (c : Client) : Action → List Moment
  | .begin method params => [.begun method params]
  | .acquire id dial => [.acquired id dial]
  | .register id => [.registered id]
  | .write id succeeds =>
    if succeeds then [.sent id]
    else
      match c.call? id with
      | some ⟨_, _, _, .registered k _⟩ => [.failed id, .closed k]
      | _ => []
  | .abandon id halfWritten =>
    match c.call? id with
    | some ⟨_, _, _, .registered k _⟩ =>
      if halfWritten then [.dropped id, .closed k] else [.dropped id]
    | _ => [.dropped id]
  | .receive k bytes =>
    if c.isHeld k && (c.link k).reading then
      let (ms, left) := scan ((c.link k).buffer ++ bytes)
      ms.map (.heard k) ++ [ending k left]
    else []
  | .hangUp k => if k < c.links.length then [.stopped k] else []

/-- Which moments the steps have, and what has to hold for them. -/
inductive Occurs (c : Client) : Action → Moment → Prop
  | begun (method : String) (params : Json) : Occurs c (.begin method params) (.begun method params)
  | acquired (id : Nat) (dial : Dial) : Occurs c (.acquire id dial) (.acquired id dial)
  | registered (id : Nat) : Occurs c (.register id) (.registered id)
  | sent (id : Nat) : Occurs c (.write id true) (.sent id)
  | failed (id : Nat) : Occurs c (.write id false) (.failed id)
  | broken (id k : Nat) : Occurs c (.write id false) (.closed k)
  | dropped (id : Nat) (halfWritten : Bool) : Occurs c (.abandon id halfWritten) (.dropped id)
  | halfWritten (id k : Nat) : Occurs c (.abandon id true) (.closed k)
  | heard (k : Nat) (bytes : List UInt8) (m : Incoming) (hread : (c.link k).reading = true) :
    Occurs c (.receive k bytes) (.heard k m)
  | kept (k : Nat) (bytes left : List UInt8) : Occurs c (.receive k bytes) (.kept k left)
  | unreadable (k : Nat) (bytes : List UInt8) (hread : (c.link k).reading = true) :
    Occurs c (.receive k bytes) (.stopped k)
  | hungUp (k : Nat) (hk : k < c.links.length) : Occurs c (.hangUp k) (.stopped k)

theorem occurs_of_mem {c : Client} {a : Action} {m : Moment} (h : m ∈ c.moments a) :
    c.Occurs a m := by
  cases a with
  | begin method params =>
    obtain rfl := List.mem_singleton.1 h
    exact .begun method params
  | acquire id dial =>
    obtain rfl := List.mem_singleton.1 h
    exact .acquired id dial
  | register id =>
    obtain rfl := List.mem_singleton.1 h
    exact .registered id
  | write id succeeds =>
    cases succeeds with
    | true =>
      obtain rfl := List.mem_singleton.1 h
      exact .sent id
    | false =>
      simp only [moments, Bool.false_eq_true, if_false] at h
      split at h
      · simp only [List.mem_cons, List.not_mem_nil, or_false] at h
        rcases h with rfl | rfl
        · exact .failed id
        · exact .broken id _
      · cases h
  | abandon id halfWritten =>
    simp only [moments] at h
    split at h
    · split at h
      · next half =>
        subst half
        simp only [List.mem_cons, List.not_mem_nil, or_false] at h
        rcases h with rfl | rfl
        · exact .dropped id true
        · exact .halfWritten id _
      · obtain rfl := List.mem_singleton.1 h
        exact .dropped id halfWritten
    · obtain rfl := List.mem_singleton.1 h
      exact .dropped id halfWritten
  | receive k bytes =>
    simp only [moments] at h
    split at h
    · next hheld =>
      have hread := (Bool.and_eq_true_iff.1 hheld).2
      rw [List.mem_append, List.mem_map, List.mem_singleton] at h
      rcases h with ⟨m, -, rfl⟩ | rfl
      · exact .heard k bytes m hread
      · unfold ending
        split
        · exact .kept k bytes _
        · exact .unreadable k bytes hread
    · cases h
  | hangUp k =>
    simp only [moments] at h
    split at h
    · next hk =>
      obtain rfl := List.mem_singleton.1 h
      exact .hungUp k hk
    · cases h

/-- The client after some steps. -/
def run (c : Client) (as : List Action) : Client :=
  as.foldl (fun c a => (c.step a).1) c

@[simp] theorem run_nil (c : Client) : c.run [] = c := rfl

@[simp] theorem run_cons (c : Client) (a : Action) (as : List Action) :
    c.run (a :: as) = (c.step a).1.run as := rfl

theorem run_append (c : Client) (as as' : List Action) :
    c.run (as ++ as') = (c.run as).run as' := by
  rw [run, run, run, List.foldl_append]

/-- The moments of a run. -/
def unroll (c : Client) : List Action → List Moment
  | [] => []
  | a :: as => c.moments a ++ (c.step a).1.unroll as

/-- Every moment of a run belongs to one of its steps. -/
theorem unroll_split {c : Client} {as : List Action} {before behind : List Moment} {m : Moment}
    (h : c.unroll as = before ++ m :: behind) :
    ∃ done a next front back, as = done ++ a :: next ∧ before = c.unroll done ++ front ∧
      (c.run done).moments a = front ++ m :: back ∧
      behind = back ++ ((c.run done).step a).1.unroll next := by
  induction as generalizing c before with
  | nil => simp [unroll] at h
  | cons a as ih =>
    rw [unroll, List.append_eq_append_iff] at h
    rcases h with ⟨front, hbefore, hrest⟩ | ⟨rest, hmoments, hrest⟩
    -- the moment comes after the first step
    · obtain ⟨done, b, next, front', back, rfl, rfl, hb, hbehind⟩ := ih hrest
      refine ⟨a :: done, b, next, front', back, rfl, ?_, hb, hbehind⟩
      rw [hbefore, unroll, List.append_assoc]
    · cases rest with
      | nil =>
        -- it is the first one after that step
        have hrest' : (c.step a).1.unroll as = [] ++ m :: behind := hrest.symm
        obtain ⟨done, b, next, front', back, rfl, hnil, hb, hbehind⟩ := ih hrest'
        refine ⟨a :: done, b, next, front', back, rfl, ?_, hb, hbehind⟩
        rw [unroll, List.append_assoc, ← hnil, hmoments, List.append_nil]
        simp
      | cons m' back =>
        -- it belongs to that step
        obtain ⟨rfl, rfl⟩ := List.cons.inj hrest
        exact ⟨[], a, as, before, back, rfl, rfl, hmoments, rfl⟩

end Client

end AssetSearch.Wire
