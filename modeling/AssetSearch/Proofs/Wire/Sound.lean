/-
# The table of waiting calls

The one invariant of a client: on every connection exactly those calls are waited for that wait on
it themselves, a closed connection has none, and only the current connection may be open.

Key definitions: `Client.Sound`.  Key statements: `Sound.advance` (every moment keeps the invariant)
and `Sound.step_eq` (a step is the sequence of its moments).
-/
import AssetSearch.Proofs.Wire.Moments

namespace AssetSearch.Wire.Client

/-- The tables of the connections agree with the phases of the calls. -/
structure Sound (c : Client) : Prop where
  /-- There is a connection. -/
  nonempty : 0 < c.links.length
  /-- A connection that has been replaced is closed. -/
  closed_of_lt : ∀ k, k < c.current → (c.link k).closed = true
  /-- A connection that is not read any more is closed. -/
  closed_of_not_reading : ∀ k, (c.link k).reading = false → (c.link k).closed = true
  /-- Nothing waits on a closed connection. -/
  waiting_of_closed : ∀ k, (c.link k).closed = true → (c.link k).waiting = []
  /-- A connection knows the calls that wait on it. -/
  mem_waiting_iff : ∀ k id,
    id ∈ (c.link k).waiting ↔ ∃ call, c.call? id = some call ∧ call.isPending k = true
  /-- Calls use connections that exist. -/
  lt_of_link? : ∀ id call k, c.call? id = some call → call.link? = some k → k < c.links.length
  /-- Calls are numbered from 1 in the order in which they start. -/
  numbered : c.calls.map Call.id = List.range' 1 c.calls.length
  nextId_eq : c.nextId = c.calls.length + 1

/-- A client that has just connected. -/
theorem sound_connected (address : String) : (connected address).Sound where
  nonempty := Nat.one_pos
  closed_of_lt := fun k hk => absurd hk (Nat.not_lt_zero k)
  closed_of_not_reading := by
    intro k hk
    cases k with
    | zero => cases hk
    | succ k => rfl
  waiting_of_closed := by
    intro k hk
    cases k with
    | zero => rfl
    | succ k => rfl
  mem_waiting_iff := by
    intro k id
    have hw : ((connected address).link k).waiting = [] := by
      cases k <;> rfl
    rw [hw]
    simp [call?, connected]
  lt_of_link? := by
    intro id call k h
    simp [call?, connected] at h
  numbered := rfl
  nextId_eq := rfl

namespace Sound

variable {c : Client}

/-- Every call is found under its id. -/
theorem call?_of_mem (h : c.Sound) {call : Call} (hmem : call ∈ c.calls) :
    c.call? call.id = some call := by
  -- calls are numbered, so no two have the same id
  have hnodup : (c.calls.map Call.id).Nodup := by
    rw [h.numbered]
    exact List.nodup_range'
  rw [call?, List.find?_eq_some_iff_append]
  refine ⟨by simp, ?_⟩
  obtain ⟨before, behind, hsplit⟩ := List.append_of_mem hmem
  refine ⟨before, behind, hsplit, ?_⟩
  intro other hother
  rw [hsplit, List.map_append, List.nodup_append] at hnodup
  have hne := hnodup.2.2 other.id (List.mem_map_of_mem hother) call.id (by simp)
  simpa using hne

/-- The next id is unused, and so are those behind it. -/
theorem call?_of_le (h : c.Sound) {id : Nat} (hid : c.nextId ≤ id) : c.call? id = none := by
  rw [call?, List.find?_eq_none]
  intro call hmem hcall
  have hin : call.id ∈ List.range' 1 c.calls.length := by
    rw [← h.numbered]
    exact List.mem_map_of_mem hmem
  rw [List.mem_range'_1] at hin
  rw [h.nextId_eq] at hid
  have hcid : call.id = id := by simpa using hcall
  omega

/-- On a closed connection no call waits. -/
theorem not_isPending (h : c.Sound) {k id : Nat} {call : Call} (hk : (c.link k).closed = true)
    (hcall : c.call? id = some call) : call.isPending k = false := by
  rw [Bool.eq_false_iff]
  intro hp
  have hmem := (h.mem_waiting_iff k id).2 ⟨call, hcall, hp⟩
  rw [h.waiting_of_closed k hk] at hmem
  cases hmem

/-- The current connection exists. -/
theorem current_lt (h : c.Sound) : c.current < c.links.length :=
  Nat.sub_lt h.nonempty Nat.one_pos

/-! ## Changes of one call -/

/-- **One call moves on.**  A call may change its phase if the connection that it uses knows whether
the call waits there now, and is otherwise as it was. -/
theorem move (h : c.Sound) {id k : Nat} {call : Call} {f : Call → Phase} {l : Link}
    (hcall : c.call? id = some call) (hk : k < c.links.length)
    (hclosed : l.closed = (c.link k).closed) (hreading : l.reading = (c.link k).reading)
    (hother : ∀ j, j ≠ id → (j ∈ l.waiting ↔ j ∈ (c.link k).waiting))
    (hself : id ∈ l.waiting ↔ { call with phase := f call }.isPending k = true)
    (hold : ∀ j, call.isPending j = true → j = k)
    (hnew : ∀ j, { call with phase := f call }.link? = some j → j = k)
    (hwait : l.closed = true → l.waiting = []) :
    ((c.setPhase id f).setLink k l).Sound where
  nonempty := by
    simpa using h.nonempty
  closed_of_lt := by
    intro j hj
    have hj' : j < c.current := by simpa [current] using hj
    by_cases hjk : j = k
    · subst hjk
      rw [link_setLink_self _ (by simpa using hk), hclosed]
      exact h.closed_of_lt j hj'
    · rw [link_setLink_of_ne _ _ hjk, link_setPhase]
      exact h.closed_of_lt j hj'
  closed_of_not_reading := by
    intro j hj
    by_cases hjk : j = k
    · subst hjk
      rw [link_setLink_self _ (by simpa using hk)] at hj ⊢
      rw [hclosed]
      exact h.closed_of_not_reading j (hreading ▸ hj)
    · rw [link_setLink_of_ne _ _ hjk, link_setPhase] at hj ⊢
      exact h.closed_of_not_reading j hj
  waiting_of_closed := by
    intro j hj
    by_cases hjk : j = k
    · subst hjk
      rw [link_setLink_self _ (by simpa using hk)] at hj ⊢
      exact hwait hj
    · rw [link_setLink_of_ne _ _ hjk, link_setPhase] at hj ⊢
      exact h.waiting_of_closed j hj
  mem_waiting_iff := by
    intro j i
    rw [call?_setLink]
    -- the call itself waits on `k` at most, before and after; the other calls do not change
    by_cases hi : i = id
    · subst hi
      rw [call?_setPhase_self, hcall]
      simp only [Option.map_some, Option.some.injEq, exists_eq_left']
      by_cases hjk : j = k
      · subst hjk
        rw [link_setLink_self _ (by simpa using hk), hself]
      · rw [link_setLink_of_ne _ _ hjk, link_setPhase, h.mem_waiting_iff, hcall]
        simp only [Option.some.injEq, exists_eq_left']
        constructor
        · intro hp
          exact absurd (hold j hp) hjk
        · intro hp
          exact absurd (hnew j (Call.link?_of_isPending hp)) hjk
    · rw [call?_setPhase_of_ne _ _ hi, ← h.mem_waiting_iff]
      by_cases hjk : j = k
      · subst hjk
        rw [link_setLink_self _ (by simpa using hk), hother i hi]
      · rw [link_setLink_of_ne _ _ hjk, link_setPhase]
  lt_of_link? := by
    intro i other j hi hj
    rw [call?_setLink] at hi
    rw [length_links_setLink, length_links_setPhase]
    by_cases hid : i = id
    · subst hid
      rw [call?_setPhase_self, hcall] at hi
      obtain rfl := Option.some.inj hi
      rw [hnew j hj]
      exact hk
    · rw [call?_setPhase_of_ne _ _ hid] at hi
      exact h.lt_of_link? i other j hi hj
  numbered := by
    have hn := h.numbered
    rw [← map_calls_setPhase c (g := Call.id) (fun _ _ => rfl) id f,
      ← length_calls_setPhase c id f] at hn
    exact hn
  nextId_eq := by
    have hn := h.nextId_eq
    rw [← length_calls_setPhase c id f] at hn
    exact hn

/-- A call that waits neither before nor after may change its phase freely. -/
theorem movePhase (h : c.Sound) {id k : Nat} {call : Call} {f : Call → Phase}
    (hcall : c.call? id = some call) (hk : k < c.links.length)
    (hpending : { call with phase := f call }.isPending k = call.isPending k)
    (hold : ∀ j, call.isPending j = true → j = k)
    (hnew : ∀ j, { call with phase := f call }.link? = some j → j = k) :
    (c.setPhase id f).Sound := by
  have hself : id ∈ (c.link k).waiting ↔ { call with phase := f call }.isPending k = true := by
    rw [h.mem_waiting_iff, hcall, hpending]
    simp
  have hmove := h.move (l := c.link k) hcall hk rfl rfl (fun _ _ => Iff.rfl) hself hold hnew
    (h.waiting_of_closed k)
  rwa [← link_setPhase c id f, setLink_link] at hmove

/-! ## Changes of a connection -/

/-- **A connection closes.**  Its waiting calls are lost with it. -/
theorem lose (h : c.Sound) (k : Nat) {l : Link} (hclosed : l.closed = true)
    (hwait : l.waiting = []) : ((c.setLink k l).loseCalls k).Sound := by
  -- a connection that does not exist counts as closed, so the two facts hold for it as well
  have hk : ((c.setLink k l).link k).closed = true ∧ ((c.setLink k l).link k).waiting = [] := by
    by_cases hk : k < c.links.length
    · rw [link_setLink_self c hk]
      exact ⟨hclosed, hwait⟩
    · rw [setLink_of_length_le c (Nat.le_of_not_lt hk), link_of_length_le c (Nat.le_of_not_lt hk)]
      exact ⟨rfl, rfl⟩
  refine ⟨by simpa using h.nonempty, ?_, ?_, ?_, ?_, ?_, ?_, ?_⟩
  · intro j hj
    have hj' : j < c.current := by simpa [current] using hj
    rw [link_loseCalls]
    by_cases hjk : j = k
    · rw [hjk]
      exact hk.1
    · rw [link_setLink_of_ne _ _ hjk]
      exact h.closed_of_lt j hj'
  · intro j hj
    rw [link_loseCalls] at hj ⊢
    by_cases hjk : j = k
    · rw [hjk]
      exact hk.1
    · rw [link_setLink_of_ne _ _ hjk] at hj ⊢
      exact h.closed_of_not_reading j hj
  · intro j hj
    rw [link_loseCalls] at hj ⊢
    by_cases hjk : j = k
    · rw [hjk]
      exact hk.2
    · rw [link_setLink_of_ne _ _ hjk] at hj ⊢
      exact h.waiting_of_closed j hj
  · intro j id
    simp only [link_loseCalls, call?_loseCalls, call?_setLink, Option.map_eq_some_iff,
      exists_exists_and_eq_and, isPending_onLoss, Bool.and_eq_true, bne_iff_ne]
    by_cases hjk : j = k
    · subst hjk
      simp [hk.2]
    · rw [link_setLink_of_ne _ _ hjk, h.mem_waiting_iff]
      simp [hjk]
  · intro id call j hcall hj
    rw [call?_loseCalls, Option.map_eq_some_iff] at hcall
    obtain ⟨before, hbefore, rfl⟩ := hcall
    rw [length_links_loseCalls, length_links_setLink]
    exact h.lt_of_link? id before j hbefore (link?_onLoss hj)
  · have hn := h.numbered
    rw [← map_calls_loseCalls c (g := Call.id) (fun _ _ => rfl) k,
      ← length_calls_loseCalls c k] at hn
    exact hn
  · have hn := h.nextId_eq
    rw [← length_calls_loseCalls c k] at hn
    exact hn

/-- **A connection is opened** in place of a closed one. -/
theorem openLink (h : c.Sound) (hc : (c.link c.current).closed = true) : c.openLink.Sound where
  nonempty := by simp
  closed_of_lt := by
    intro k hk
    have hlt : k < c.links.length := by simpa [current] using hk
    rw [link_openLink, if_neg (Nat.ne_of_lt hlt)]
    rcases Nat.lt_or_ge k c.current with hlt' | hge
    · exact h.closed_of_lt k hlt'
    · have hkc : k = c.current := by
        unfold current at hge ⊢
        omega
      rw [hkc]
      exact hc
  closed_of_not_reading := by
    intro k hk
    rw [link_openLink] at hk ⊢
    split at hk
    · cases hk
    · next hne =>
      rw [if_neg hne]
      exact h.closed_of_not_reading k hk
  waiting_of_closed := by
    intro k hk
    rw [link_openLink] at hk ⊢
    split at hk
    · cases hk
    · next hne =>
      rw [if_neg hne]
      exact h.waiting_of_closed k hk
  mem_waiting_iff := by
    intro k id
    rw [link_openLink, call?_openLink]
    split
    · next hk =>
      -- nobody can wait on a connection that did not exist a moment ago
      constructor
      · intro hmem
        cases hmem
      · rintro ⟨call, hcall, hp⟩
        have hlt := h.lt_of_link? id call k hcall (Call.link?_of_isPending hp)
        omega
    · exact h.mem_waiting_iff k id
  lt_of_link? := by
    intro id call k hcall hk
    have hlt := h.lt_of_link? id call k hcall hk
    rw [length_links_openLink]
    omega
  numbered := h.numbered
  nextId_eq := h.nextId_eq

/-- The bytes that a reader keeps are no concern of the calls. -/
theorem keep (h : c.Sound) (k : Nat) (bytes : List UInt8) :
    (c.setLink k { c.link k with buffer := bytes }).Sound := by
  by_cases hk : k < c.links.length
  · have hlink : ∀ j, let l := (c.setLink k { c.link k with buffer := bytes }).link j
        l.closed = (c.link j).closed ∧ l.reading = (c.link j).reading ∧
          l.waiting = (c.link j).waiting := by
      intro j
      rw [link_setLink c hk]
      split
      · next hjk => rw [hjk]; exact ⟨rfl, rfl, rfl⟩
      · exact ⟨rfl, rfl, rfl⟩
    refine ⟨by simpa using h.nonempty, ?_, ?_, ?_, ?_, ?_, h.numbered,
      h.nextId_eq⟩
    · intro j hj
      rw [(hlink j).1]
      exact h.closed_of_lt j (by simpa [current] using hj)
    · intro j hj
      rw [(hlink j).1]
      exact h.closed_of_not_reading j ((hlink j).2.1 ▸ hj)
    · intro j hj
      rw [(hlink j).2.2]
      exact h.waiting_of_closed j ((hlink j).1 ▸ hj)
    · intro j id
      rw [(hlink j).2.2]
      exact h.mem_waiting_iff j id
    · intro id call j hcall hj
      rw [length_links_setLink]
      exact h.lt_of_link? id call j hcall hj
  · rwa [setLink_of_length_le c (Nat.le_of_not_lt hk)]

/-! ## Moments -/

theorem begin (h : c.Sound) (method : String) (params : Json) :
    (c.begin method params).2.Sound where
  nonempty := h.nonempty
  closed_of_lt := h.closed_of_lt
  closed_of_not_reading := h.closed_of_not_reading
  waiting_of_closed := h.waiting_of_closed
  mem_waiting_iff := by
    intro k id
    have hnone := h.call?_of_le (Nat.le_refl _)
    rw [link_begin, call?_begin c hnone, h.mem_waiting_iff]
    split
    · next hid =>
      subst hid
      simp [hnone, isPending_newCall]
    · rfl
  lt_of_link? := by
    intro id call k hcall hk
    rw [call?_begin c (h.call?_of_le (Nat.le_refl _))] at hcall
    split at hcall
    · obtain rfl := Option.some.inj hcall
      rw [link?_newCall] at hk
      cases hk
    · exact h.lt_of_link? id call k hcall hk
  numbered := by
    have hid : (c.newCall method params).id = c.calls.length + 1 := h.nextId_eq
    rw [begin_eq]
    simp [h.numbered, hid, List.range'_1_concat, Nat.add_comm]
  nextId_eq := by
    rw [begin_eq]
    simp [h.nextId_eq]

theorem acquire (h : c.Sound) (id : Nat) (dial : Dial) : (c.acquire id dial).Sound := by
  rcases hcall : c.call? id with _ | ⟨i, method, request, phase⟩
  · simpa only [Client.acquire, hcall] using h
  cases phase with
  | started =>
    simp only [Client.acquire, hcall]
    by_cases hc : (c.link c.current).closed = true
    · rw [if_pos hc]
      cases dial.failure? c.address with
      | none =>
        -- the call takes the new connection, which exists by then
        refine (h.openLink hc).movePhase (k := c.links.length) hcall ?_ rfl ?_ ?_
        · simp
        · intro j hj
          cases hj
        · intro j hj
          exact (Option.some.inj hj).symm
      | some failure =>
        refine h.movePhase hcall h.current_lt rfl ?_ ?_
        · intro j hj
          cases hj
        · intro j hj
          cases hj
    · rw [if_neg hc]
      refine h.movePhase hcall h.current_lt rfl ?_ ?_
      · intro j hj
        cases hj
      · intro j hj
        exact (Option.some.inj hj).symm
  | _ => simpa only [Client.acquire, hcall] using h

theorem register (h : c.Sound) (id : Nat) : (c.register id).Sound := by
  rcases hcall : c.call? id with _ | ⟨i, method, request, phase⟩
  · simpa only [Client.register, hcall] using h
  cases phase with
  | acquired k =>
    simp only [Client.register, hcall, Link.register]
    have hk : k < c.links.length := h.lt_of_link? id _ k hcall rfl
    by_cases hc : (c.link k).closed = true
    · rw [if_pos hc]
      refine h.movePhase hcall hk rfl ?_ ?_
      · intro j hj
        cases hj
      · intro j hj
        cases hj
    · rw [if_neg hc]
      refine h.move hcall hk rfl rfl ?_ ?_ ?_ ?_ ?_
      · intro j hj
        simp [hj]
      · simp [Call.isPending]
      · intro j hj
        cases hj
      · intro j hj
        exact (Option.some.inj hj).symm
      · intro hclosed
        exact absurd hclosed hc
  | _ => simpa only [Client.register, hcall] using h

theorem write (h : c.Sound) (id : Nat) : (c.write id true).Sound := by
  rcases hcall : c.call? id with _ | ⟨i, method, request, phase⟩
  · simpa only [Client.write, hcall] using h
  cases phase with
  | registered k mail =>
    simp only [Client.write, hcall, if_true]
    have hk : k < c.links.length := h.lt_of_link? id _ k hcall rfl
    cases mail with
    | pending =>
      refine h.movePhase hcall hk rfl ?_ ?_
      · intro j hj
        exact (beq_iff_eq.1 hj).symm
      · intro j hj
        exact (Option.some.inj hj).symm
    | _ =>
      refine h.movePhase hcall hk rfl ?_ ?_
      · intro j hj
        cases hj
      · intro j hj
        cases hj
  | _ => simpa only [Client.write, hcall] using h

/-- A call that ends is not waited for any more. -/
theorem release (h : c.Sound) {id k : Nat} {call : Call} {f : Call → Phase}
    (hcall : c.call? id = some call) (hlink : call.link? = some k)
    (hnew : ∀ j, { call with phase := f call }.link? = some j → j = k)
    (hend : { call with phase := f call }.isPending k = false) :
    ((c.setPhase id f).setLink k ((c.link k).release id)).Sound := by
  refine h.move hcall (h.lt_of_link? id call k hcall hlink) rfl rfl ?_ ?_ ?_ hnew ?_
  · intro j hj
    simp [Link.release, hj]
  · simp [Link.release, hend]
  · intro j hj
    exact (Option.some.inj (hlink.symm.trans (Call.link?_of_isPending hj))).symm
  · intro hclosed
    have hnil := h.waiting_of_closed k hclosed
    simp [Link.release, hnil]

theorem fail (h : c.Sound) (id : Nat) : (c.fail id).Sound := by
  rcases hcall : c.call? id with _ | ⟨i, method, request, phase⟩
  · simpa only [Client.fail, hcall] using h
  cases phase with
  | registered k mail =>
    simp only [Client.fail, hcall]
    exact h.release hcall rfl (by intro j hj; cases hj) rfl
  | _ => simpa only [Client.fail, hcall] using h

theorem abandon (h : c.Sound) (id : Nat) : (c.abandon id false).Sound := by
  rcases hcall : c.call? id with _ | ⟨i, method, request, phase⟩
  · simpa only [Client.abandon, hcall] using h
  cases phase with
  | started =>
    simp only [Client.abandon, hcall]
    exact h.movePhase hcall h.current_lt rfl (by intro j hj; cases hj) (by intro j hj; cases hj)
  | acquired k =>
    simp only [Client.abandon, hcall]
    exact h.movePhase hcall h.current_lt rfl (by intro j hj; cases hj) (by intro j hj; cases hj)
  | registered k mail =>
    simp only [Client.abandon, hcall, Bool.false_eq_true, if_false]
    exact h.release hcall rfl (by intro j hj; cases hj) rfl
  | sent k =>
    simp only [Client.abandon, hcall]
    exact h.release hcall rfl (by intro j hj; cases hj) rfl
  | done r => simpa only [Client.abandon, hcall] using h
  | abandoned => simpa only [Client.abandon, hcall] using h

theorem hear (h : c.Sound) (k : Nat) (m : Incoming) : (c.hear k m).Sound := by
  rcases hear_cases c k m with ⟨id, outcome, rfl⟩ | hm
  · rw [hear_reply]
    split
    · next hmem =>
      obtain ⟨call, hcall, hp⟩ := (h.mem_waiting_iff k id).1 hmem
      have hlink := Call.link?_of_isPending hp
      -- a reply that is waited for ends the waiting
      refine h.release hcall hlink ?_ (isPending_onReply call k outcome)
      intro j hj
      exact (Option.some.inj (hlink.symm.trans (link?_onReply hj))).symm
    · exact h
  · rwa [hm]

/-- **Every moment keeps the invariant.** -/
theorem advance (h : c.Sound) (m : Moment) : (c.advance m).Sound := by
  cases m with
  | begun method params => exact h.begin method params
  | acquired id dial => exact h.acquire id dial
  | registered id => exact h.register id
  | sent id => exact h.write id
  | failed id => exact h.fail id
  | dropped id => exact h.abandon id
  | heard k m => exact h.hear k m
  | kept k bytes => exact h.keep k bytes
  | closed k => exact h.lose k rfl rfl
  | stopped k => exact h.lose k rfl rfl

theorem after (h : c.Sound) (ms : List Moment) : (c.after ms).Sound := by
  induction ms generalizing c with
  | nil => exact h
  | cons m ms ih => exact ih (h.advance m)

end Sound

/-! ## Steps -/

variable {c : Client}

/-- Nothing is lost on a connection that is closed already. -/
theorem Sound.loseCalls_eq (h : c.Sound) {k : Nat} (hk : (c.link k).closed = true) :
    c.loseCalls k = c := by
  have hcalls : c.calls.map (fun call => { call with phase := call.onLoss k c.lost })
      = c.calls := by
    conv_rhs => rw [← List.map_id c.calls]
    apply List.map_congr_left
    intro call hmem
    rw [onLoss_of_not_isPending c.lost (h.not_isPending hk (h.call?_of_mem hmem)), id]
  rw [loseCalls, hcalls]

/-- The effects of a connection concern the calls only. -/
theorem link_applyEffects (c : Client) (k : Nat) (effects : List Effect) (j : Nat) :
    (c.applyEffects k effects).link j = c.link j := by
  induction effects generalizing c with
  | nil => rfl
  | cons effect effects ih => cases effect <;> exact ih _

theorem setLink_applyEffects (c : Client) (k : Nat) (effects : List Effect) (l : Link) :
    (c.applyEffects k effects).setLink k l = (c.setLink k l).applyEffects k effects := by
  induction effects generalizing c with
  | nil => rfl
  | cons effect effects ih => cases effect <;> exact ih _

theorem applyEffects_append (c : Client) (k : Nat) (effects more : List Effect) :
    c.applyEffects k (effects ++ more) = (c.applyEffects k effects).applyEffects k more := by
  rw [applyEffects, applyEffects, applyEffects, List.foldl_append]

theorem length_links_hear (c : Client) (k : Nat) (m : Incoming) :
    (c.hear k m).links.length = c.links.length := by
  rcases hear_cases c k m with ⟨id, outcome, rfl⟩ | hm
  · rw [hear_reply]
    split
    · rw [length_links_setLink, length_links_setPhase]
    · rfl
  · rw [hm]

/-- Hearing messages one by one is handling them all and then applying their effects. -/
theorem after_heard {k : Nat} (hk : k < c.links.length) (ms : List Incoming) :
    c.after (ms.map (.heard k)) =
      (c.setLink k ((c.link k).handleAll ms).1).applyEffects k ((c.link k).handleAll ms).2 := by
  induction ms generalizing c with
  | nil => exact (setLink_link c k).symm
  | cons m ms ih =>
    have hlink : (c.hear k m).link k = ((c.link k).handle m).1 := by
      rw [hear, link_applyEffects, link_setLink_self c hk]
    rw [List.map_cons, after_cons, advance, ih (by rwa [length_links_hear]), hlink, hear,
      setLink_applyEffects, setLink_setLink, ← applyEffects_append]
    rfl

/-- Bytes on a connection that is not read any more have no effect. -/
theorem Sound.receive_of_not_reading (h : c.Sound) {k : Nat} (hread : (c.link k).reading = false)
    (bytes : List UInt8) : c.receive k bytes = (c, []) := by
  rw [receive]
  split
  · rw [Link.feed, if_neg (by simp [hread])]
    simp only [applyEffects, List.foldl_nil]
    rw [setLink_link, if_pos (h.closed_of_not_reading k hread),
      h.loseCalls_eq (h.closed_of_not_reading k hread)]
  · rfl

/-- Reading bytes is hearing the messages in them, and then keeping what is left. -/
theorem Sound.receive_eq (h : c.Sound) (k : Nat) (bytes : List UInt8) :
    (c.receive k bytes).1 = c.after (c.moments (.receive k bytes)) := by
  by_cases hheld : c.isHeld k = true
  · by_cases hreading : (c.link k).reading = true
    · have hk : k < c.links.length := by
        by_contra hge
        rw [link_of_length_le c (Nat.le_of_not_lt hge)] at hreading
        cases hreading
      rw [receive, if_pos hheld, Link.feed, if_pos hreading, Link.drain_eq, moments, hheld,
        hreading]
      -- both sides hear the same messages; they differ in when the connection is put back
      generalize hscan : scan ((c.link k).buffer ++ bytes) = scanned
      obtain ⟨ms, left⟩ := scanned
      simp only [Bool.and_self, if_true]
      rw [after_append, after_heard hk]
      generalize hall : (c.link k).handleAll ms = handled
      obtain ⟨l, effects⟩ := handled
      have hsound : ((c.setLink k l).applyEffects k effects).Sound := by
        have hs := h.after (ms.map (.heard k))
        rwa [after_heard hk, hall] at hs
      have hl : ((c.setLink k l).applyEffects k effects).link k = l := by
        rw [link_applyEffects, link_setLink_self c hk]
      cases left with
      | none =>
        show ((c.setLink k l.shut).applyEffects k effects).loseCalls k
          = (((c.setLink k l).applyEffects k effects).setLink k
              (((c.setLink k l).applyEffects k effects).link k).shut).loseCalls k
        rw [hl, setLink_applyEffects, setLink_setLink]
      | some rest =>
        show (if l.closed = true
            then ((c.setLink k { l with buffer := rest }).applyEffects k effects).loseCalls k
            else (c.setLink k { l with buffer := rest }).applyEffects k effects)
          = ((c.setLink k l).applyEffects k effects).setLink k
              { ((c.setLink k l).applyEffects k effects).link k with buffer := rest }
        rw [hl, setLink_applyEffects, setLink_setLink]
        split
        · next hclosed =>
          -- the connection was closed before, so nobody is left to lose
          have hkept : ((c.setLink k { l with buffer := rest }).applyEffects k effects).Sound := by
            have hs := hsound.keep k rest
            rwa [hl, setLink_applyEffects, setLink_setLink] at hs
          refine hkept.loseCalls_eq ?_
          rw [link_applyEffects, link_setLink_self c hk]
          exact hclosed
        · rfl
    · have hread : (c.link k).reading = false := Bool.eq_false_iff.2 hreading
      rw [h.receive_of_not_reading hread, moments, hread, Bool.and_false]
      rfl
  · rw [receive, if_neg hheld, moments, Bool.eq_false_iff.2 hheld, Bool.false_and]
    rfl

/-- A request that cannot be written loses its call and closes the connection. -/
theorem Sound.write_eq (h : c.Sound) (id : Nat) (succeeds : Bool) :
    c.write id succeeds = c.after (c.moments (.write id succeeds)) := by
  cases succeeds with
  | true => rfl
  | false =>
    rcases hcall : c.call? id with _ | ⟨i, method, request, phase⟩
    · simp only [Client.write, moments, hcall, Bool.false_eq_true, if_false, after_nil]
    cases phase with
    | registered k mail =>
      have hk : k < c.links.length := h.lt_of_link? id _ k hcall rfl
      simp only [Client.write, moments, hcall, Bool.false_eq_true, if_false]
      show ((c.setPhase id fun _ => .done (.error c.lost)).setLink k (c.link k).close).loseCalls k
        = ((c.fail id).setLink k ((c.fail id).link k).close).loseCalls k
      simp only [Client.fail, hcall]
      rw [link_setLink_self _ (by simpa using hk), setLink_setLink]
      rfl
    | _ => simp only [Client.write, moments, hcall, Bool.false_eq_true, if_false, after_nil]

/-- A request of which only a part is written closes the connection when its call is given up. -/
theorem Sound.abandon_eq (h : c.Sound) (id : Nat) (halfWritten : Bool) :
    c.abandon id halfWritten = c.after (c.moments (.abandon id halfWritten)) := by
  rcases hcall : c.call? id with _ | ⟨i, method, request, phase⟩
  · simp only [moments, hcall, after_cons, after_nil, Client.advance,
    Client.abandon]
  cases phase with
  | registered k mail =>
    cases halfWritten with
    | false =>
      simp only [moments, hcall, Bool.false_eq_true, if_false, after_cons, after_nil]
      rfl
    | true =>
      have hk : k < c.links.length := h.lt_of_link? id _ k hcall rfl
      simp only [moments, hcall, if_true]
      show c.abandon id true
        = ((c.abandon id false).setLink k ((c.abandon id false).link k).close).loseCalls k
      simp only [Client.abandon, hcall, Bool.false_eq_true, if_false, if_true]
      rw [link_setLink_self _ (by simpa using hk), setLink_setLink]
      rfl
  | _ => simp only [moments, hcall, after_cons, after_nil, Client.advance,
    Client.abandon]

/-- Only a connection that exists can be hung up. -/
theorem Sound.hangUp_eq (h : c.Sound) (k : Nat) : c.hangUp k = c.after (c.moments (.hangUp k)) := by
  by_cases hk : k < c.links.length
  · rw [moments, if_pos hk]
    rfl
  · have hlink := link_of_length_le c (Nat.le_of_not_lt hk)
    have hclosed : (c.link k).closed = true := by rw [hlink]; rfl
    rw [moments, if_neg hk, Client.hangUp, setLink_of_length_le c (Nat.le_of_not_lt hk),
      h.loseCalls_eq hclosed]
    rfl

/-- **A step is the sequence of its moments.** -/
theorem Sound.step_eq (h : c.Sound) (a : Action) : (c.step a).1 = c.after (c.moments a) := by
  cases a with
  | begin method params => rfl
  | acquire id dial => rfl
  | register id => rfl
  | write id succeeds => exact h.write_eq id succeeds
  | abandon id halfWritten => exact h.abandon_eq id halfWritten
  | receive k bytes => exact h.receive_eq k bytes
  | hangUp k => exact h.hangUp_eq k

/-- A run is the sequence of its moments, and keeps the invariant. -/
theorem Sound.run_eq (h : c.Sound) (as : List Action) : c.run as = c.after (c.unroll as) := by
  induction as generalizing c with
  | nil => rfl
  | cons a as ih =>
    have hstep : (c.step a).1.Sound := by
      rw [h.step_eq]
      exact h.after _
    rw [run_cons, ih hstep, unroll, after_append, h.step_eq]

theorem Sound.run (h : c.Sound) (as : List Action) : (c.run as).Sound := by
  rw [h.run_eq]
  exact h.after _

end AssetSearch.Wire.Client
