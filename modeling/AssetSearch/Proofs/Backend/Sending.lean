/-
# What a server is handed

A command that is given to a server begins one call of the client and no other, hands the server the
request of that call, unless it is too long to be sent, and comes back with the events that the
bytes of the server bring and with the result with which the call has returned.  So the server sees
the requests of all commands in the order in which they are given, each under the number of its
call.

Key definitions: `Client.published`, `Remote.Sends`, `Remote.after`, `Remote.requests`.  Key
statements: `Remote.sends_call`, `Remote.server_after`.
-/
import AssetSearch.Backend.Remote
import AssetSearch.Proofs.Wire.ReplyMatching
import AssetSearch.Proofs.Wire.Teardown

namespace AssetSearch

open Wire

namespace Wire.Client

variable {c : Client} {call : Call} {id k : Nat} {method : String} {params : Json}

/-! ## Runs in which no call starts -/

/-- Every moment of a run is one of a step. -/
theorem mem_unroll {as : List Action} {m : Moment} (h : m ∈ c.unroll as) :
    ∃ done a, a ∈ as ∧ m ∈ (c.run done).moments a := by
  obtain ⟨before, behind, hsplit⟩ := List.append_of_mem h
  obtain ⟨done, a, next, front, back, rfl, -, hmoments, -⟩ := unroll_split hsplit
  exact ⟨done, a, by simp, by simp [hmoments]⟩

/-- Steps that start no call keep all labels. -/
theorem Sound.map_label_run_of_not_begun (h : c.Sound) {as : List Action}
    (has : ∀ a ∈ as, a.begun? = none) : (c.run as).calls.map label = c.calls.map label := by
  rw [h.run_eq]
  refine map_label_after fun m hm => ?_
  obtain ⟨done, a, ha, hmoment⟩ := mem_unroll hm
  exact starts_of_mem_moments (has a ha) hmoment

/-- A step that starts a call uses one number up, and the steps behind it use none if they start no
call. -/
theorem Sound.nextId_run (h : c.Sound) {as : List Action} (has : ∀ a ∈ as, a.begun? = none) :
    (c.run (.begin method params :: as)).nextId = c.nextId + 1 := by
  have hbegun : (c.begin method params).2.Sound := h.run [.begin method params]
  have hlabels := congrArg List.length (hbegun.map_label_run_of_not_begun has)
  rw [List.length_map, List.length_map] at hlabels
  rw [run_cons]
  show ((c.begin method params).2.run as).nextId = _
  rw [(hbegun.run as).nextId_eq, hlabels, ← hbegun.nextId_eq]
  rfl

/-! ## Calls that are sent -/

/-- Only a call that asks for a connection can change which one is the current one. -/
theorem current_advance {m : Moment} (hm : ∀ id dial, m ≠ .acquired id dial) :
    (c.advance m).current = c.current := by
  have h := change_advance c m
  generalize c.advance m = c' at h
  cases h with
  | opened id dial f => exact absurd rfl (hm id dial)
  | begun method params => rfl
  | same _ h => rfl
  | moved _ h id f => rfl
  | _ => simp [current]

/-- A call that asks for a connection, where somebody answers, has the current one, which is
open. -/
theorem acquire_answered (hcall : c.call? id = some call) (hphase : call.phase = .started) :
    (c.acquire id .answered).call? id
        = some { call with phase := .acquired (c.acquire id .answered).current } ∧
      ((c.acquire id .answered).link (c.acquire id .answered).current).closed = false := by
  by_cases hclosed : (c.link c.current).closed = true
  · have hopens : c.acquire id .answered
        = c.openLink.setPhase id fun _ => .acquired c.links.length :=
      acquire_of_closed hclosed hcall hphase .answered
    have hcurrent : (c.acquire id .answered).current = c.links.length := by
      rw [hopens]
      simp [current]
    refine ⟨?_, ?_⟩
    · rw [call?_acquire_self hcall, onAcquire, hphase, hcurrent]
      dsimp only
      rw [if_pos hclosed]
      rfl
    · rw [hcurrent, hopens, link_setPhase, link_openLink, if_pos rfl]
      rfl
  · have htakes : c.acquire id .answered = c.setPhase id fun _ => .acquired c.current := by
      obtain ⟨i, method, request, phase⟩ := call
      obtain rfl : phase = .started := hphase
      simp only [acquire, hcall]
      exact if_neg hclosed
    refine ⟨?_, ?_⟩
    · rw [call?_acquire_self hcall, onAcquire, hphase, htakes]
      dsimp only
      rw [if_neg hclosed]
      rfl
    · rw [htakes]
      exact Bool.eq_false_iff.2 hclosed

/-- A call that has an open connection waits there for its reply once it is registered and
written. -/
theorem call?_write_register (hcall : c.call? id = some call) (hphase : call.phase = .acquired k)
    (hopen : (c.link k).closed = false) :
    ((c.register id).write id true).call? id = some { call with phase := .sent k } := by
  have hregistered := call?_register_self hcall
  rw [onRegister, hphase] at hregistered
  dsimp only at hregistered
  rw [hopen, if_neg Bool.false_ne_true] at hregistered
  rw [call?_write_self hregistered]
  rfl

theorem current_write_register (c : Client) (id : Nat) :
    ((c.register id).write id true).current = c.current :=
  (current_advance (m := .sent id) (by simp)).trans
    (current_advance (m := .registered id) (by simp))

/-- The request of a call that waits for its reply was sent. -/
theorem request?_of_sent (hcall : c.call? id = some call) (hphase : call.phase = .sent k) :
    c.request? id = some call.request := by
  obtain ⟨i, method, request, phase⟩ := call
  obtain rfl : phase = .sent k := hphase
  rw [request?, hcall]

/-- The steps of a call that is sent with nothing in between. -/
def sending (c : Client) (method : String) (params : Json) : List Action :=
  [.begin method params, .acquire c.nextId .answered, .register c.nextId, .write c.nextId true]

/-- **A call that is sent waits for its reply on the current connection**, if its request is not too
long. -/
theorem Sound.call?_sending (h : c.Sound)
    (hshort : (c.nextRequest method params).length ≤ Frame.maxLength) :
    ∃ call, (c.run (c.sending method params)).call? c.nextId = some call ∧
      call.phase = .sent (c.run (c.sending method params)).current ∧
      call.request = c.nextRequest method params := by
  have hbegun : (c.begin method params).2.call? c.nextId = some (c.newCall method params) := by
    rw [call?_begin c (h.call?_of_le (Nat.le_refl _)), if_pos rfl]
  have hstarted : (c.newCall method params).phase = .started := by
    rw [phase_newCall, if_pos hshort]
  have hrequest := request_newCall c method params
  -- it starts, has the current connection, which is open, waits there, and is written
  generalize c.newCall method params = call at hbegun hstarted hrequest
  obtain ⟨hacquired, hopen⟩ := acquire_answered hbegun hstarted
  have hsent := call?_write_register hacquired rfl hopen
  rw [← current_write_register _ c.nextId] at hsent
  exact ⟨_, hsent, rfl, hrequest⟩

/-- A call whose request is too long has failed at once. -/
theorem Sound.result?_sending_of_long (h : c.Sound)
    (hlong : Frame.maxLength < (c.nextRequest method params).length) :
    (c.run (c.sending method params)).result? c.nextId
      = some (.error (Frame.tooLong (c.nextRequest method params).length)) := by
  have hbegun : (c.begin method params).2.call? c.nextId = some (c.newCall method params) := by
    rw [call?_begin c (h.call?_of_le (Nat.le_refl _)), if_pos rfl]
  have hfailed : (c.newCall method params).phase
      = .done (.error (Frame.tooLong (c.nextRequest method params).length)) := by
    rw [phase_newCall, if_neg (Nat.not_le.2 hlong)]
  have hsound : (c.begin method params).2.Sound := h.run [.begin method params]
  exact hsound.result?_after (result?_of_call? hbegun hfailed)
    [.acquired c.nextId .answered, .registered c.nextId, .sent c.nextId]

/-! ## Calls that return -/

/-- A call that waits for its reply goes on to wait or returns, unless it is given up. -/
theorem react_of_sent (hphase : call.phase = .sent k) {m : Moment} (hm : m ≠ .dropped call.id) :
    c.react call m = .sent k ∨ ∃ r, c.react call m = .done r := by
  obtain ⟨i, method, request, phase⟩ := call
  simp only [react, onAcquire, onRegister, Call.turn, Call.onWritten, Call.onFailure, Call.onDrop,
    Call.onReply, Call.onLoss] at hphase hm ⊢
  grind

theorem Sound.waits_or_returns (h : c.Sound) (hcall : c.call? id = some call)
    (hphase : call.phase = .sent k) {ms : List Moment} (hms : .dropped id ∉ ms) :
    (c.after ms).call? id = some call ∨ ∃ r, (c.after ms).result? id = some r := by
  have hid := id_of_call? hcall
  induction ms generalizing c with
  | nil => exact .inl hcall
  | cons m ms ih =>
    rw [List.mem_cons, not_or] at hms
    obtain ⟨hm, hms⟩ := hms
    have hnext := h.call?_advance hcall m
    rcases react_of_sent (c := c) hphase (m := m) (hid ▸ Ne.symm hm) with hwaits | ⟨r, hreturns⟩
    · rw [hwaits, ← hphase] at hnext
      exact ih (h.advance m) hnext hms
    · rw [hreturns] at hnext
      refine .inr ⟨r, (h.advance m).result?_after ?_ ms⟩
      rw [result?, hnext]

/-! ## What comes from the other side -/

/-- Whether a step comes from the other side of a connection. -/
def Action.comesFrom (k : Nat) : Action → Bool
  | .receive j _ | .hangUp j => j == k
  | _ => false

/-- The bytes that arrive in a step, with their connection. -/
def Action.arrival? : Action → Option (Nat × List UInt8)
  | .receive k bytes => some (k, bytes)
  | _ => none

/-- The events that are published in a run. -/
def published (c : Client) : List Action → List Progress.Event
  | [] => []
  | a :: as => (c.step a).2.filterMap Effect.event? ++ (c.step a).1.published as

theorem published_append (c : Client) (as as' : List Action) :
    c.published (as ++ as') = c.published as ++ (c.run as).published as' := by
  induction as generalizing c with
  | nil => rfl
  | cons a as ih => rw [List.cons_append, published, published, ih, run_cons, List.append_assoc]

theorem begun?_of_comesFrom {a : Action} (h : a.comesFrom k = true) : a.begun? = none := by
  cases a with
  | receive j bytes => rfl
  | hangUp j => rfl
  | _ => cases h

/-- The other side neither makes calls nor gives them up. -/
theorem ne_of_comesFrom {as : List Action} (has : ∀ a ∈ as, a.comesFrom k = true) {m : Moment}
    (hm : m ∈ c.unroll as) : (∀ id dial, m ≠ .acquired id dial) ∧ ∀ id, m ≠ .dropped id := by
  obtain ⟨done, a, ha, hmoment⟩ := mem_unroll hm
  have hfrom := has a ha
  cases occurs_of_mem hmoment with
  | acquired id dial => cases hfrom
  | dropped id half => cases hfrom
  | _ => exact ⟨nofun, nofun⟩

theorem Sound.current_run (h : c.Sound) {as : List Action}
    (has : ∀ a ∈ as, a.comesFrom k = true) : (c.run as).current = c.current := by
  have hms : ∀ m ∈ c.unroll as, ∀ id dial, m ≠ .acquired id dial := fun m hm =>
    (ne_of_comesFrom has hm).1
  rw [h.run_eq]
  generalize c.unroll as = ms at hms
  clear h
  induction ms generalizing c with
  | nil => rfl
  | cons m ms ih =>
    rw [after_cons, ih fun m' hm' => hms m' (List.mem_cons_of_mem m hm'),
      current_advance (hms m List.mem_cons_self)]

end Wire.Client

namespace Remote

open Progress (Event)
open Wire.Client (Action)

variable {ω : Type}

/-! ## Calls of a method -/

/-- What a method that is called through a client does to the client and to the server. -/
structure Sends (server : Server ω) (method : String) (params : Json) (before : Remote ω)
    (events : List Event) (outcome : Outcome Json) (after : Remote ω) : Prop where
  /-- The server takes one turn, upon the request of the call, unless that is too long to be
  sent. -/
  handed : after.server =
    if (before.client.nextRequest method params).length ≤ Frame.maxLength then
      (server (before.client.nextRequest method params) before.server).2
    else before.server
  /-- One call is begun, and no other.  What the server sends in its turn arrives on the current
  connection, and nothing else; the events are those that are published meanwhile. -/
  begun : ∃ as, after.client = before.client.run (.begin method params :: as) ∧
    (∀ a ∈ as, a.begun? = none) ∧
    as.filterMap Action.arrival? =
      (if (before.client.nextRequest method params).length ≤ Frame.maxLength then
        [(after.client.current,
          (server (before.client.nextRequest method params) before.server).1.bytes)]
      else []) ∧
    events = before.client.published (.begin method params :: as)
  /-- The call has returned, with the outcome. -/
  returned : after.client.result? before.client.nextId = some outcome

variable {server : Server ω} {r : Remote ω} {id : Nat} {method : String} {params : Json}

/-- Upon a request the server takes one turn, which reaches the current connection only. -/
theorem turn_of_request? (server : Server ω) {request : List UInt8}
    (h : r.client.request? id = some request) :
    ∃ as, (∀ a ∈ as, a.comesFrom r.client.current = true) ∧
      as.filterMap Action.arrival? = [(r.client.current, (server request r.server).1.bytes)] ∧
      turn server id r
        = (r.client.published as, ⟨r.client.run as, (server request r.server).2⟩) := by
  rw [turn, h]
  dsimp only
  generalize (server request r.server).1 = t
  by_cases hangs : t.hangsUp = true
  · refine ⟨[.receive r.client.current t.bytes, .hangUp r.client.current], ?_, rfl, ?_⟩
    · simp [Action.comesFrom]
    · rw [if_pos hangs, Client.published, Client.published, Client.published]
      simp [Client.step, Client.run]
  · refine ⟨[.receive r.client.current t.bytes], ?_, rfl, ?_⟩
    · simp [Action.comesFrom]
    · rw [if_neg hangs, Client.published, Client.published, List.append_nil]
      rfl

/-- A call whose request was not written gives the server no turn. -/
theorem turn_of_result? {outcome : Outcome Json} (h : r.client.result? id = some outcome) :
    turn server id r = ([], r) := by
  obtain ⟨⟨i, method, request, phase⟩, hcall, hdone⟩ := Client.call?_of_result? h
  obtain rfl : phase = .done outcome := hdone
  rw [turn, Client.request?, hcall]

/-- The call waits for its reply on the current connection, or has returned. -/
def OnItsWay (r : Remote ω) (id : Nat) : Prop :=
  (∃ call, r.client.call? id = some call ∧ call.phase = .sent r.client.current) ∨
    ∃ outcome, r.client.result? id = some outcome

/-- The server has its turn upon the request of a call that has just been sent. -/
theorem turn_sending (server : Server ω) (method : String) (params : Json) (h : r.client.Sound) :
    let sent := r.client.run (r.client.sending method params)
    let request := r.client.nextRequest method params
    let turned := turn server r.client.nextId ⟨sent, r.server⟩
    turned.2.server
        = (if request.length ≤ Frame.maxLength then (server request r.server).2 else r.server) ∧
      (∃ as, (∀ a ∈ as, a.comesFrom sent.current = true) ∧
        as.filterMap Action.arrival?
          = (if request.length ≤ Frame.maxLength then
              [(sent.current, (server request r.server).1.bytes)] else []) ∧
        turned.2.client = sent.run as ∧ turned.1 = sent.published as) ∧
      turned.2.OnItsWay r.client.nextId := by
  intro sent request turned
  have hsent : sent.Sound := h.run _
  by_cases hshort : request.length ≤ Frame.maxLength
  · rw [if_pos hshort, if_pos hshort]
    obtain ⟨call, hcall, hphase, hcallRequest⟩ := h.call?_sending hshort
    have hrequest : sent.request? r.client.nextId = some request := by
      rw [Client.request?_of_sent hcall hphase, hcallRequest]
    obtain ⟨as, has, harrivals, hturn⟩ :=
      turn_of_request? (r := ⟨sent, r.server⟩) server hrequest
    have hturned : turned = _ := hturn
    rw [hturned]
    refine ⟨rfl, ⟨as, has, harrivals, rfl, rfl⟩, ?_⟩
    -- what comes from the server gives no call up
    have hkept : .dropped r.client.nextId ∉ sent.unroll as := fun hmem =>
      (Client.ne_of_comesFrom has hmem).2 _ rfl
    rw [OnItsWay, hsent.current_run has, hsent.run_eq as]
    exact (hsent.waits_or_returns hcall hphase hkept).imp_left fun hwaits => ⟨call, hwaits, hphase⟩
  · rw [if_neg hshort, if_neg hshort]
    have hfailed : sent.result? r.client.nextId
        = some (.error (Frame.tooLong request.length)) :=
      h.result?_sending_of_long (Nat.lt_of_not_le hshort)
    have hturned : turned = ([], ⟨sent, r.server⟩) := turn_of_result? hfailed
    rw [hturned]
    exact ⟨rfl, ⟨[], by simp, rfl, rfl, rfl⟩, .inr ⟨_, hfailed⟩⟩

/-- In the end the call has returned; nothing arrives any more. -/
theorem settle_of_onItsWay (h : r.client.Sound) (hcall : r.OnItsWay id) :
    (∃ as, (∀ a ∈ as, a.comesFrom r.client.current = true) ∧
      as.filterMap Action.arrival? = [] ∧
      (settle id r).2 = { r with client := r.client.run as } ∧ r.client.published as = []) ∧
      (settle id r).2.client.result? id = some (settle id r).1 := by
  cases hresult : r.client.result? id with
  | some outcome =>
    rw [settle, hresult]
    exact ⟨⟨[], by simp, rfl, rfl, rfl⟩, hresult⟩
  | none =>
    rcases hcall with ⟨call, hcall, hphase⟩ | ⟨outcome, hreturned⟩
    · have hlost : (r.client.hangUp r.client.current).result? id = some (.error r.client.lost) :=
        h.result?_advance_stopped hcall hphase
      rw [settle, hresult]
      refine ⟨⟨[.hangUp r.client.current], ?_, rfl, rfl, rfl⟩, by simp [hlost]⟩
      simp [Action.comesFrom]
    · rw [hreturned] at hresult
      cases hresult

theorem call_eq (server : Server ω) (method : String) (params : Json) (r : Remote ω) :
    call server method params r =
      let turned := turn server r.client.nextId
        ⟨r.client.run (r.client.sending method params), r.server⟩
      let settled := settle r.client.nextId turned.2
      ((turned.1, settled.1), settled.2) := rfl

/-- **A method that is called begins its call, hands over its request and returns**, with the events
that come meanwhile. -/
theorem sends_call (server : Server ω) (method : String) (params : Json) (h : r.client.Sound) :
    Sends server method params r (call server method params r).1.1
      (call server method params r).1.2 (call server method params r).2 := by
  obtain ⟨hserver, ⟨as, has, harrivals, hclient, hevents⟩, hway⟩ :=
    turn_sending server method params h
  rw [call_eq]
  have hsent : (r.client.run (r.client.sending method params)).Sound := h.run _
  generalize hsteps : r.client.run (r.client.sending method params) = sent at *
  generalize turn server r.client.nextId ⟨sent, r.server⟩ = turned at *
  have hturned : turned.2.client.Sound := by
    rw [hclient]
    exact hsent.run as
  obtain ⟨⟨bs, hbs, hnothing, hsettle, hsilent⟩, hreturned⟩ := settle_of_onItsWay hturned hway
  have hcurrent : (settle r.client.nextId turned.2).2.client.current = sent.current := by
    rw [hsettle]
    show (turned.2.client.run bs).current = _
    rw [hturned.current_run hbs, hclient, hsent.current_run has]
  refine ⟨?_, ⟨[.acquire r.client.nextId .answered, .register r.client.nextId,
    .write r.client.nextId true] ++ as ++ bs, ?_, ?_, ?_, ?_⟩, hreturned⟩
  · show (settle r.client.nextId turned.2).2.server = _
    rw [hsettle]
    exact hserver
  · show (settle r.client.nextId turned.2).2.client = _
    rw [hsettle, hclient, ← hsteps, ← Client.run_append, ← Client.run_append]
    rfl
  · simp only [List.cons_append, List.nil_append, List.forall_mem_cons, List.forall_mem_append]
    exact ⟨rfl, rfl, rfl, fun a ha => Client.begun?_of_comesFrom (has a ha),
      fun a ha => Client.begun?_of_comesFrom (hbs a ha)⟩
  · show _ = if _ then [((settle r.client.nextId turned.2).2.client.current, _)] else []
    rw [List.filterMap_append, List.filterMap_append, hnothing, List.append_nil, hcurrent]
    exact harrivals
  · calc turned.1 = sent.published as ++ turned.2.client.published bs := by
          rw [hsilent, List.append_nil, hevents]
      _ = sent.published (as ++ bs) := by rw [hclient, Client.published_append]
      -- sending publishes nothing
      _ = r.client.published (r.client.sending method params ++ (as ++ bs)) := by
          rw [r.client.published_append, hsteps]
          rfl

/-! ## Commands -/

/-- **A command is given as the call of its name with its parameters**, and comes back with the
result of that call. -/
theorem sends_backend (server : Server ω) (c : Command) (h : r.client.Sound) :
    ∃ outcome,
      Sends server c.name c.params r (backend server c r).1.events outcome (backend server c r).2 ∧
      (backend server c r).1.outcome = resultOf c outcome :=
  ⟨_, sends_call server c.name c.params h, rfl⟩

/-- The remote after some commands, one after the other. -/
def after (server : Server ω) (cs : List Command) (r : Remote ω) : Remote ω :=
  cs.foldl (fun r c => (backend server c r).2) r

/-- The requests for some commands, which are numbered on; those that are too long are not sent. -/
def requests (first : Nat) : List Command → List (List UInt8)
  | [] => []
  | c :: cs =>
    let request := (Wire.Request.call c.name c.params first).toJson.bytes
    if request.length ≤ Frame.maxLength then request :: requests (first + 1) cs
    else requests (first + 1) cs

/-- **The server is handed the requests of all commands**, in their order and each once. -/
theorem server_after (server : Server ω) (cs : List Command) (h : r.client.Sound) :
    (r.after server cs).server
      = (requests r.client.nextId cs).foldl (fun s request => (server request s).2) r.server := by
  induction cs generalizing r with
  | nil => rfl
  | cons c cs ih =>
    obtain ⟨outcome, ⟨hserver, ⟨as, hclient, has, -⟩, -⟩, -⟩ := sends_backend server c h
    have hsound : (backend server c r).2.client.Sound := by
      rw [hclient]
      exact h.run _
    have hnext : (backend server c r).2.client.nextId = r.client.nextId + 1 := by
      rw [hclient]
      exact h.nextId_run has
    have hcons : r.after server (c :: cs) = (backend server c r).2.after server cs := rfl
    rw [hcons, ih hsound, hnext, hserver, requests]
    show _ = List.foldl _ _ (if (r.client.nextRequest c.name c.params).length ≤ Frame.maxLength then
      r.client.nextRequest c.name c.params :: _ else _)
    by_cases hshort : (r.client.nextRequest c.name c.params).length ≤ Frame.maxLength
    · rw [if_pos hshort, if_pos hshort, List.foldl_cons]
    · rw [if_neg hshort, if_neg hshort]

end Remote

end AssetSearch
