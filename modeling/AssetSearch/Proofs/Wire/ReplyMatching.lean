/-
# Replies reach the calls that they answer

Every call has an id of its own, and an answer comes from the first reply with that id which arrives
on the connection of the call while the call waits there.  No other message matters to a call, and
so neither does the order in which the replies of different calls arrive.

Key definitions: `IsAnswer`, `Client.FirstReply`, `Client.Arrival`.  Key statement:
`replies_match_calls`.
-/
import Mathlib.Data.List.Induction
import Mathlib.Data.List.Nodup
import AssetSearch.Proofs.Wire.Calls

namespace AssetSearch.Wire

/-- A result that only a reply can give: a value, or a failure that the backend reports. -/
def IsAnswer (r : Outcome Json) : Prop :=
  (∃ v, r = .ok v) ∨ ∃ command message, r = .error (.backend command message)

theorem isAnswer_resultOf (call : Call) (outcome : ReplyOutcome) :
    IsAnswer (call.resultOf outcome) := by
  cases outcome with
  | ok v => exact .inl ⟨v, rfl⟩
  | error e => exact .inr ⟨call.method, e.message, rfl⟩

/-- A reply has reached the call and gives it a result, which the call has returned or will return
once its request is written. -/
def Call.Answered (call : Call) (r : Outcome Json) : Prop :=
  (∃ k outcome, call.phase = .registered k (.reply outcome) ∧ r = call.resultOf outcome) ∨
    (call.phase = .done r ∧ IsAnswer r)

namespace Client

/-! ## Waiting and answers, moment by moment -/

/-- The call with an id registers at a moment of a run, and waits on a connection from then on. -/
def WaitsSince (start : Client) (ms : List Moment) (id k : Nat) : Prop :=
  ∃ before between,
    ms = before ++ .registered id :: between ∧
    ¬ (start.after before).WaitsOn id k ∧
    ∀ part, part <+: between → (start.after (before ++ .registered id :: part)).WaitsOn id k

/-- The first reply with an id that arrives on a connection while the call with that id waits there,
in a run with the given moments. -/
def FirstReply (start : Client) (ms : List Moment) (id k : Nat) (outcome : ReplyOutcome) : Prop :=
  ∃ before between behind,
    ms = before ++ .registered id :: (between ++ .heard k (.reply (some id) outcome) :: behind) ∧
    ¬ (start.after before).WaitsOn id k ∧
    (∀ part, part <+: between → (start.after (before ++ .registered id :: part)).WaitsOn id k) ∧
    ∀ other, .heard k (.reply (some id) other) ∉ between

variable {c : Client} {call : Call} {m : Moment} {k : Nat}

/-- A call starts to wait only when it registers. -/
theorem isPending_react (h : { call with phase := c.react call m }.isPending k = true) :
    call.isPending k = true ∨ m = .registered call.id := by
  obtain ⟨id, method, request, phase⟩ := call
  simp only [Call.isPending, react, onAcquire, onRegister, Call.turn, Call.onWritten,
    Call.onFailure, Call.onDrop, Call.onReply, Call.onLoss] at h ⊢
  grind

/-- The loss of a connection is no answer, and neither is the failure to open one. -/
theorem not_isAnswer_lost : ¬ IsAnswer (.error c.lost) := by
  rintro (⟨v, h⟩ | ⟨command, message, h⟩)
  · cases h
  · cases h

theorem not_isAnswer_dial {address : String} {dial : Dial} {failure : Failure}
    (h : dial.failure? address = some failure) : ¬ IsAnswer (.error failure) := by
  rintro (⟨v, hv⟩ | ⟨command, message, hf⟩)
  · cases hv
  · cases hf
    cases dial <;> cases h

/-- A call that starts has no answer. -/
theorem not_answered_newCall (c : Client) (method : String) (params : Json) (r : Outcome Json) :
    ¬ (c.newCall method params).Answered r := by
  rintro (⟨k, outcome, hp, -⟩ | ⟨hp, hr⟩)
  · rw [phase_newCall] at hp
    split at hp <;> cases hp
  · rw [phase_newCall] at hp
    split at hp
    · cases hp
    · obtain rfl := Phase.done.inj hp
      rcases hr with ⟨v, hv⟩ | ⟨command, message, hf⟩
      · cases hv
      · cases hf

/-- A call is answered only by a reply with its id for which it waits. -/
theorem answered_react {r : Outcome Json}
    (h : { call with phase := c.react call m }.Answered r) :
    call.Answered r ∨ ∃ k outcome, m = .heard k (.reply (some call.id) outcome) ∧
      call.isPending k = true ∧ r = call.resultOf outcome := by
  obtain ⟨id, method, request, phase⟩ := call
  have hlost := not_isAnswer_lost (c := c)
  have hdial := @not_isAnswer_dial c.address
  simp only [Call.Answered, Call.isPending, Call.resultOf, react, onAcquire, onRegister, Call.turn,
    Call.onWritten, Call.onFailure, Call.onDrop, Call.onReply, Call.onLoss] at h ⊢
  grind

/-- After a reply with its id no call waits for it any more. -/
theorem Sound.not_waitsOn_hear (h : c.Sound) (id k : Nat) (outcome : ReplyOutcome) :
    ¬ (c.advance (.heard k (.reply (some id) outcome))).WaitsOn id k := by
  rintro ⟨call, hcall, hp⟩
  rcases hbefore : c.call? id with _ | before
  · rcases h.call?_advance_of_none hbefore (.heard k (.reply (some id) outcome)) with hn | hn
    · rw [hn] at hcall
      cases hcall
    · obtain ⟨method, params, hm, -⟩ := hn
      cases hm
  · have hself : (c.advance (.heard k (.reply (some id) outcome))).call? id = _ :=
      h.call?_hear_self hbefore k outcome
    rw [hself] at hcall
    obtain rfl := Option.some.inj hcall
    rw [isPending_onReply] at hp
    cases hp

/-! ## The history of a call -/

variable {start : Client} {ms : List Moment} {id : Nat}

/-- **A call that waits has registered**, and has waited ever since. -/
theorem waitsSince_of_isPending (hstart : start.Sound) (hnew : start.calls = [])
    (hcall : (start.after ms).call? id = some call) (hp : call.isPending k = true) :
    WaitsSince start ms id k := by
  induction ms using List.reverseRecOn generalizing call with
  | nil => simp [call?, hnew] at hcall
  | append_singleton ms m ih =>
    have hsound := hstart.after ms
    have hafter : (start.after (ms ++ [m])) = (start.after ms).advance m :=
      after_append start ms [m]
    rcases hbefore : (start.after ms).call? id with _ | old
    · -- a call that starts does not wait yet
      rw [hafter] at hcall
      rcases hsound.call?_advance_of_none hbefore m with hn | ⟨method, params, -, hn⟩
      · rw [hn] at hcall
        cases hcall
      · rw [hn] at hcall
        obtain rfl := Option.some.inj hcall
        rw [isPending_newCall] at hp
        cases hp
    · have hcall' := hcall
      rw [hafter, hsound.call?_advance hbefore m] at hcall'
      obtain rfl := Option.some.inj hcall'
      by_cases hold : old.isPending k = true
      -- it has waited before this moment and still does
      · obtain ⟨before, between, hms, hfirst, hwait⟩ := ih hbefore hold
        refine ⟨before, between ++ [m], by rw [hms]; simp, hfirst, ?_⟩
        intro part hpart
        rcases List.prefix_concat_iff.1 hpart with rfl | hpart
        · rw [← List.cons_append, ← List.append_assoc, ← hms]
          exact ⟨_, hcall, hp⟩
        · exact hwait part hpart
      · have hm : m = .registered id := by
          rcases isPending_react hp with h | h
          · exact absurd h hold
          · rw [h, id_of_call? hbefore]
        -- it starts to wait at this very moment
        subst hm
        refine ⟨ms, [], rfl, ?_, ?_⟩
        · rintro ⟨other, hother, hpending⟩
          rw [hbefore] at hother
          obtain rfl := Option.some.inj hother
          exact hold hpending
        · intro part hpart
          rw [List.prefix_nil.1 hpart]
          exact ⟨_, hcall, hp⟩

/-- **An answered call has had its reply**: the first with its id on its connection. -/
theorem firstReply_of_answered (hstart : start.Sound) (hnew : start.calls = [])
    (hcall : (start.after ms).call? id = some call) {r : Outcome Json} (hr : call.Answered r) :
    ∃ k outcome, FirstReply start ms id k outcome ∧ r = call.resultOf outcome := by
  induction ms using List.reverseRecOn generalizing call with
  | nil => simp [call?, hnew] at hcall
  | append_singleton ms m ih =>
    have hsound := hstart.after ms
    have hafter : (start.after (ms ++ [m])) = (start.after ms).advance m :=
      after_append start ms [m]
    rw [hafter] at hcall
    rcases hbefore : (start.after ms).call? id with _ | old
    · rcases hsound.call?_advance_of_none hbefore m with hn | ⟨method, params, -, hn⟩
      · rw [hn] at hcall
        cases hcall
      · rw [hn] at hcall
        obtain rfl := Option.some.inj hcall
        exact absurd hr (not_answered_newCall _ method params r)
    · rw [hsound.call?_advance hbefore m] at hcall
      obtain rfl := Option.some.inj hcall
      rcases answered_react hr with hold | ⟨k, outcome, hm, hp, hr'⟩
      · obtain ⟨k, outcome, ⟨before, between, behind, hms, hfirst, hwait, hno⟩, hr'⟩ :=
          ih hbefore hold
        -- the reply is older than this moment
        refine ⟨k, outcome, ⟨before, between, behind ++ [m], ?_, hfirst, hwait, hno⟩, hr'⟩
        rw [hms]
        simp
      · rw [id_of_call? hbefore] at hm
        subst hm
        -- this moment is the reply, and the call has waited for it since it registered
        obtain ⟨before, between, hms, hfirst, hwait⟩ :=
          waitsSince_of_isPending hstart hnew hbefore hp
        refine ⟨k, outcome, ⟨before, between, [], ?_, hfirst, hwait, ?_⟩, hr'⟩
        · rw [hms]
          simp
        · -- an earlier reply would have ended the waiting
          intro other hother
          obtain ⟨part, rest, hsplit⟩ := List.append_of_mem hother
          have hpart : part ++ [.heard k (.reply (some id) other)] <+: between :=
            ⟨rest, by rw [hsplit]; simp⟩
          have hstill := hwait _ hpart
          rw [← List.cons_append, ← List.append_assoc, after_append] at hstill
          exact (hstart.after _).not_waitsOn_hear id k other hstill

/-! ## Numbers -/

/-- The calls that an action starts. -/
def Action.begun? : Action → Option (String × Json)
  | .begin method params => some (method, params)
  | _ => none

/-- The label of the call that starts as number `i`, counted from 0. -/
def labelAt (i : Nat) (b : String × Json) : Nat × String × List UInt8 :=
  (i + 1, b.1, (Request.call b.1 b.2 (i + 1)).toJson.bytes)

/-- Only the step that starts a call has a moment at which one starts. -/
theorem starts_of_mem_moments {a : Action} (ha : a.begun? = none) (h : m ∈ c.moments a) :
    m.starts = false := by
  cases occurs_of_mem h with
  | begun => cases ha
  | _ => rfl

/-- Moments at which no call starts keep all labels. -/
theorem map_label_after (h : ∀ m ∈ ms, m.starts = false) :
    (c.after ms).calls.map label = c.calls.map label := by
  induction ms generalizing c with
  | nil => rfl
  | cons m ms ih =>
    rw [after_cons, ih fun m' hm' => h m' (List.mem_cons_of_mem m hm'), map_label_advance,
      newLabels_eq_nil (h m List.mem_cons_self), List.append_nil]

/-- **Calls are numbered in the order in which they start**, whatever connections they use. -/
theorem Sound.map_label_run (hstart : start.Sound) (hnew : start.calls = []) (as : List Action) :
    (start.run as).calls.map label = (as.filterMap Action.begun?).mapIdx labelAt := by
  induction as using List.reverseRecOn with
  | nil => rw [run_nil, hnew]; rfl
  | append_singleton as a ih =>
    have hsound := hstart.run as
    have hstep : start.run (as ++ [a]) = ((start.run as).step a).1 := run_append start as [a]
    rw [hstep, List.filterMap_append]
    cases hb : a.begun? with
    | none =>
      have hnone : ∀ m ∈ (start.run as).moments a, m.starts = false := fun m hm =>
        starts_of_mem_moments hb hm
      rw [hsound.step_eq, map_label_after hnone, ih, List.filterMap_cons_none hb]
      simp
    | some b =>
      cases a with
      | begin method params =>
        obtain rfl := Option.some.inj hb
        -- the next id is one more than the number of calls so far
        have hid : (start.run as).nextId = (as.filterMap Action.begun?).length + 1 := by
          have hlen := congrArg List.length ih
          rw [List.length_map, List.length_mapIdx] at hlen
          rw [hsound.nextId_eq, hlen]
        rw [List.filterMap_cons_some hb, List.filterMap_nil, List.mapIdx_concat, ← ih]
        show ((start.run as).begin method params).2.calls.map label = _
        rw [begin_eq, List.map_append, List.map_singleton, label, newCall, nextRequest, hid,
          labelAt]
      | _ => cases hb

/-! ## Deliveries -/

/-- A reply to nobody does not change the client. -/
theorem hear_of_not_mem {id : Nat} (h : id ∉ (c.link k).waiting) (outcome : ReplyOutcome) :
    c.hear k (.reply (some id) outcome) = c := by
  rw [hear_reply, if_neg h]

/-- A reply changes the client only if the call with its id waits on its connection. -/
theorem Sound.advance_heard_of_not_waitsOn (h : c.Sound) {id? : Option Nat}
    (hno : ∀ id, id? = some id → ¬ c.WaitsOn id k) (outcome : ReplyOutcome) :
    c.advance (.heard k (.reply id? outcome)) = c := by
  cases id? with
  | none =>
    show c.hear k (.reply none outcome) = c
    exact hear_other c k (by intro i o hm; cases hm)
  | some id =>
    have hmem : id ∉ (c.link k).waiting := by
      rw [h.mem_waiting_iff]
      exact hno id rfl
    exact hear_of_not_mem hmem outcome

/-- The reply for which a call waits gives it its result. -/
theorem answered_onReply (outcome : ReplyOutcome) (hp : call.isPending k = true) :
    { call with phase := call.onReply k outcome }.Answered (call.resultOf outcome) := by
  have hanswer := isAnswer_resultOf call outcome
  obtain ⟨id, method, request, phase⟩ := call
  simp only [Call.isPending, Call.Answered, Call.onReply, Call.resultOf] at hp hanswer ⊢
  grind

/-! ## The order of replies -/

/-- Changes of calls with different ids can be made in any order. -/
theorem setPhase_comm {i j : Nat} (h : i ≠ j) (f g : Call → Phase) :
    (c.setPhase i f).setPhase j g = (c.setPhase j g).setPhase i f := by
  simp only [setPhase, List.map_map]
  congr 1
  apply List.map_congr_left
  intro call _
  simp only [Function.comp]
  by_cases hi : call.id = i
  · have hj : call.id ≠ j := by rwa [hi]
    rw [if_pos hi, if_neg hj, if_neg hj, if_pos hi]
  · by_cases hj : call.id = j
    · rw [if_neg hi, if_pos hj, if_neg hi]
    · rw [if_neg hi, if_neg hj, if_neg hi]

/-- Releases of calls can be made in any order. -/
theorem release_comm (l : Link) (i j : Nat) :
    (l.release i).release j = (l.release j).release i := by
  simp only [Link.release, List.filter_filter]
  congr 2
  funext id
  exact Bool.and_comm _ _

/-- A reply takes the call with its id from the table of its connection. -/
theorem link_hear (c : Client) (k i : Nat) (outcome : ReplyOutcome) (l : Nat) :
    (c.hear k (.reply (some i) outcome)).link l =
      if l = k then (c.link k).release i else c.link l := by
  rw [hear_reply]
  split
  · next hmem =>
    have hk : k < c.links.length := by
      by_contra hge
      rw [link_of_length_le c (Nat.le_of_not_lt hge)] at hmem
      cases hmem
    rw [link_setLink _ (by simpa using hk), link_setPhase]
  · next hmem =>
    have hsame : (c.link k).release i = c.link k := by
      rw [Link.release, List.filter_eq_self.2]
      intro j hj
      have hji : j ≠ i := by
        rintro rfl
        exact hmem hj
      simpa using hji
    rw [hsame]
    split
    · next hlk => rw [hlk]
    · rfl

/-- A reply takes no other call from the tables. -/
theorem mem_waiting_hear {i j : Nat} (h : i ≠ j) (c : Client) (k l : Nat) (outcome : ReplyOutcome) :
    j ∈ ((c.hear k (.reply (some i) outcome)).link l).waiting ↔ j ∈ (c.link l).waiting := by
  rw [link_hear]
  split
  · next hlk => simp [Link.release, hlk, Ne.symm h]
  · rfl

/-- Replies with different ids can arrive in any order. -/
theorem hear_comm {i j : Nat} (h : i ≠ j) (c : Client) (k l : Nat) (o p : ReplyOutcome) :
    (c.hear k (.reply (some i) o)).hear l (.reply (some j) p) =
      (c.hear l (.reply (some j) p)).hear k (.reply (some i) o) := by
  have hj := mem_waiting_hear h c k l o
  have hi := mem_waiting_hear (Ne.symm h) c l k p
  by_cases hik : i ∈ (c.link k).waiting
  · by_cases hjl : j ∈ (c.link l).waiting
    · rw [hear_reply (c.hear k _), hear_reply (c.hear l _), if_pos (hj.2 hjl), if_pos (hi.2 hik),
        link_hear, link_hear, hear_reply, hear_reply, if_pos hik, if_pos hjl]
      -- both replies are waited for: two calls change, and two tables, or one table twice
      show (((c.setPhase i _).setPhase j _).setLink k _).setLink l _
        = (((c.setPhase j _).setPhase i _).setLink l _).setLink k _
      rw [setPhase_comm h]
      by_cases hlk : l = k
      · subst hlk
        rw [if_pos rfl, if_pos rfl, setLink_setLink, setLink_setLink, release_comm]
      · rw [if_neg hlk, if_neg (Ne.symm hlk)]
        simp only [setLink]
        rw [List.set_comm _ _ (Ne.symm hlk)]
    · rw [hear_of_not_mem hjl, hear_of_not_mem (mt hj.1 hjl)]
  · rw [hear_of_not_mem hik, hear_of_not_mem (mt hi.1 hik)]

/-- A reply that arrives: its connection, its id and its outcome. -/
structure Arrival where
  link : Nat
  id : Nat
  outcome : ReplyOutcome

/-- The moment at which a reply arrives. -/
def Arrival.moment (a : Arrival) : Moment :=
  .heard a.link (.reply (some a.id) a.outcome)

/-- Replies of different calls can arrive in any order, whatever follows. -/
theorem after_perm {arrivals arrivals' : List Arrival} (hperm : arrivals.Perm arrivals')
    (hids : (arrivals.map Arrival.id).Nodup) (c : Client) :
    c.after (arrivals.map Arrival.moment) = c.after (arrivals'.map Arrival.moment) := by
  simp only [after, List.foldl_map]
  refine hperm.foldl_eq' ?_ c
  intro a ha b hb c
  by_cases hid : a.id = b.id
  · rw [List.inj_on_of_nodup_map hids ha hb hid]
  · exact hear_comm hid c a.link b.link a.outcome b.outcome

/-- **The moments of other calls do not matter to a call that waits.** -/
theorem Sound.call?_run_of_filter_eq (h : c.Sound) {id : Nat} (hwait : c.WaitsOn id k)
    {as as' : List Action}
    (heq : (c.unroll as).filter (touches id k) = (c.unroll as').filter (touches id k)) :
    (c.run as).call? id = (c.run as').call? id := by
  obtain ⟨call, hcall, hp⟩ := hwait
  have hlink : ∀ j, call.link? = some j → j = k := by
    intro j hj
    exact (Option.some.inj (hj.symm.trans (Call.link?_of_isPending hp)))
  have hunder : call.isUnderway = true := Call.isUnderway_of_isPending hp
  rw [h.run_eq, h.run_eq, h.call?_after_filter hcall hunder hlink,
    h.call?_after_filter hcall hunder hlink, heq]

/-- The id of a reply is the number that stands in its frame. -/
theorem id_of_ofEnvelope {e : Envelope} {id : Nat} {outcome : ReplyOutcome}
    (h : Incoming.ofEnvelope e = .reply (some id) outcome) :
    e.id = some (.number (.integer id)) := by
  have hid : e.id.bind idOf? = some id := by
    unfold Incoming.ofEnvelope at h
    split at h
    · cases h
    · exact (Incoming.reply.inj h).1
  obtain ⟨j, hj, hn⟩ := Option.bind_eq_some_iff.1 hid
  rw [hj]
  unfold idOf? at hn
  split at hn
  · next n =>
    split at hn
    · next hpos => rw [← Option.some.inj hn, Int.toNat_of_nonneg hpos]
    · cases hn
  · cases hn

/-! ## The result -/

/-- **Replies reach the calls that they answer**, in every run of a client: calls are numbered in
the order in which they start; an answer is that of the first reply with the id of the call which
arrives on its connection while it waits there; a reply ends the waiting of this call and changes no
other one, and a reply to nobody changes nothing; and the order of the replies to different calls
does not matter, neither to one call among all other moments nor, for replies in a row, to the whole
client. -/
theorem replies_match_calls (address : String) (as : List Action) :
    let start := connected address
    let ms := start.unroll as
    (start.run as).calls.map label = (as.filterMap Action.begun?).mapIdx labelAt ∧
    (∀ id r, (start.run as).result? id = some r → IsAnswer r →
      ∃ call k outcome, (start.run as).call? id = some call ∧
        start.FirstReply ms id k outcome ∧ r = call.resultOf outcome) ∧
    (∀ before behind k id? outcome, ms = before ++ .heard k (.reply id? outcome) :: behind →
      let c := start.after before
      let c' := start.after (before ++ [.heard k (.reply id? outcome)])
      (∃ id call, id? = some id ∧ c.call? id = some call ∧ call.isPending k = true ∧
        (∃ call', c'.call? id = some call' ∧ call'.Answered (call.resultOf outcome)) ∧
        ¬ c'.WaitsOn id k ∧ ∀ j, j ≠ id → c'.call? j = c.call? j) ∨
      ((∀ id, id? = some id → ¬ c.WaitsOn id k) ∧ c' = c)) ∧
    (∀ e id outcome, Incoming.ofEnvelope e = .reply (some id) outcome →
      e.id = some (.number (.integer id))) ∧
    (∀ id k bs bs', (start.run as).WaitsOn id k →
      ((start.run as).unroll bs).filter (touches id k)
        = ((start.run as).unroll bs').filter (touches id k) →
      ((start.run as).run bs).call? id = ((start.run as).run bs').call? id) ∧
    (∀ arrivals arrivals' : List Arrival, arrivals.Perm arrivals' →
      (arrivals.map Arrival.id).Nodup →
      (start.run as).after (arrivals.map Arrival.moment)
        = (start.run as).after (arrivals'.map Arrival.moment)) := by
  intro start ms
  have hstart : start.Sound := sound_connected address
  have hnew : start.calls = [] := rfl
  have hrun : start.run as = start.after ms := hstart.run_eq as
  refine ⟨hstart.map_label_run hnew as, ?_, ?_, fun e id outcome h => id_of_ofEnvelope h, ?_, ?_⟩
  · intro id r hresult hanswer
    obtain ⟨call, hcall, hdone⟩ := call?_of_result? hresult
    obtain ⟨k, outcome, hfirst, hr⟩ :=
      firstReply_of_answered hstart hnew (hrun ▸ hcall) (.inr ⟨hdone, hanswer⟩)
    exact ⟨call, k, outcome, hcall, hfirst, hr⟩
  · intro before behind k id? outcome _ c c'
    have hc : c.Sound := hstart.after before
    have hc' : c' = c.advance (.heard k (.reply id? outcome)) := after_append start before _
    by_cases hwait : ∃ id, id? = some id ∧ c.WaitsOn id k
    · left
      obtain ⟨id, rfl, call, hcall, hp⟩ := hwait
      refine ⟨id, call, rfl, hcall, hp, ?_, ?_, ?_⟩
      · exact ⟨_, hc' ▸ hc.call?_hear_self hcall k outcome, answered_onReply outcome hp⟩
      · rw [hc']
        exact hc.not_waitsOn_hear id k outcome
      · intro j hj
        rw [hc']
        exact call?_hear_of_ne hj
    · right
      have hno : ∀ id, id? = some id → ¬ c.WaitsOn id k := fun id hid h => hwait ⟨id, hid, h⟩
      exact ⟨hno, hc'.trans (hc.advance_heard_of_not_waitsOn hno outcome)⟩
  · intro id k bs bs' hwait heq
    exact (hstart.run as).call?_run_of_filter_eq hwait heq
  · intro arrivals arrivals' hperm hids
    exact after_perm hperm hids _

end Client

end AssetSearch.Wire
