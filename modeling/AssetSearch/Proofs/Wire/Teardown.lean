/-
# The end of a connection

When the reader of a connection stops, the calls that wait there are lost and nobody else, nothing
that arrives later matters, and the next call opens a new connection and is answered on it like any
first call.  A call that waits for its reply returns at once; one whose request is still to be
written returns when it is written or its writing fails.

Key definitions: `Client.settles`, `Client.lossPhase`, `Client.foreign`, `Client.TornDown`.  Key
statement: `teardown_of_connection`.
-/
import AssetSearch.Proofs.Wire.Calls

namespace AssetSearch.Wire

namespace Client

variable {c : Client} {k : Nat}

/-! ## What a connection is open for -/

/-- Whether a connection is closed for calls, and whether it is read. -/
def flags (c : Client) (k : Nat) : Bool × Bool :=
  ((c.link k).closed, (c.link k).reading)

theorem flags_setLink {j : Nat} {l : Link} (hc : l.closed = (c.link j).closed)
    (hr : l.reading = (c.link j).reading) : (c.setLink j l).flags k = c.flags k := by
  by_cases hj : j < c.links.length
  · by_cases hkj : k = j
    · subst hkj
      rw [flags, flags, link_setLink_self c hj, hc, hr]
    · rw [flags, flags, link_setLink_of_ne c l hkj]
  · rw [setLink_of_length_le c (Nat.le_of_not_lt hj)]

theorem length_le_advance (c : Client) (m : Moment) :
    c.links.length ≤ (c.advance m).links.length := by
  have h := change_advance c m
  generalize c.advance m = c' at h
  cases h with
  | begun method params => exact Nat.le_refl _
  | opened id dial f =>
    rw [length_links_setPhase, length_links_openLink]
    exact Nat.le_succ _
  | _ => simp

theorem length_le_after (c : Client) (ms : List Moment) :
    c.links.length ≤ (c.after ms).links.length := by
  induction ms generalizing c with
  | nil => exact Nat.le_refl _
  | cons m ms ih => exact Nat.le_trans (length_le_advance c m) (ih _)

/-- Only its own end changes what a connection is open for. -/
theorem flags_advance (hk : k < c.links.length) {m : Moment} (hc : m ≠ .closed k)
    (hs : m ≠ .stopped k) : (c.advance m).flags k = c.flags k := by
  have h := change_advance c m
  generalize c.advance m = c' at h
  cases h with
  | begun method params => rfl
  | same => rfl
  | moved _ _ id f => rfl
  | opened id dial f =>
    show (c.openLink.link k |>.closed, c.openLink.link k |>.reading) = c.flags k
    rw [link_openLink, if_neg (Nat.ne_of_lt hk), flags]
  | listed _ _ id f j l hclosed hreading =>
    exact flags_setLink (c := c.setPhase id f) hclosed hreading
  | kept j bytes => exact flags_setLink rfl rfl
  | closed j =>
    have hkj : k ≠ j := by
      rintro rfl
      exact hc rfl
    show ((c.setLink j _).link k |>.closed, (c.setLink j _).link k |>.reading) = _
    rw [link_setLink_of_ne c _ hkj, flags]
  | stopped j =>
    have hkj : k ≠ j := by
      rintro rfl
      exact hs rfl
    show ((c.setLink j _).link k |>.closed, (c.setLink j _).link k |>.reading) = _
    rw [link_setLink_of_ne c _ hkj, flags]

/-- A connection that ends is closed for calls. -/
theorem flags_advance_closed (hk : k < c.links.length) :
    (c.advance (.closed k)).flags k = (true, (c.link k).reading) := by
  show ((c.setLink k _).link k |>.closed, (c.setLink k _).link k |>.reading) = _
  rw [link_setLink_self c hk]
  rfl

/-- A connection whose reader stops is closed for calls, and not read any more. -/
theorem flags_advance_stopped (hk : k < c.links.length) :
    (c.advance (.stopped k)).flags k = (true, false) := by
  show ((c.setLink k _).link k |>.closed, (c.setLink k _).link k |>.reading) = _
  rw [link_setLink_self c hk]
  rfl

/-- A connection whose reader has stopped stays closed, and is never read again. -/
theorem flags_after (hk : k < c.links.length) (h : c.flags k = (true, false)) (ms : List Moment) :
    (c.after ms).flags k = (true, false) := by
  induction ms generalizing c with
  | nil => exact h
  | cons m ms ih =>
    refine ih (Nat.lt_of_lt_of_le hk (length_le_advance c m)) ?_
    -- a connection may be closed or stopped again, which leaves it as it is
    by_cases hs : m = .stopped k
    · rw [hs]
      exact flags_advance_stopped hk
    · by_cases hc : m = .closed k
      · rw [hc, flags_advance_closed hk, (Prod.mk.inj h).2]
      · rw [flags_advance hk hc hs, h]

/-! ## What a reader does -/

/-- Nothing is heard on a connection whose reader has stopped. -/
theorem Sound.not_heard_of_stopped (h : c.Sound) (hk : k < c.links.length)
    (hflags : c.flags k = (true, false)) (as : List Action) (x : Incoming) :
    .heard k x ∉ c.unroll as := by
  induction as generalizing c with
  | nil => exact List.not_mem_nil
  | cons a as ih =>
    rw [unroll, List.mem_append]
    rintro (hx | hx)
    · cases occurs_of_mem hx with
      | heard k bytes x hread =>
        rw [(Prod.mk.inj hflags).2] at hread
        cases hread
    · rw [h.step_eq] at hx
      refine ih (h.after _) ?_ (flags_after hk hflags _) hx
      exact Nat.lt_of_lt_of_le hk (length_le_after c _)

/-- **A reader stops** when the other side hangs up, or at a frame that cannot be read; the messages
in front of that frame have been heard then, and the step is over. -/
theorem moments_of_stopped {a : Action} {front back : List Moment}
    (h : c.moments a = front ++ .stopped k :: back) :
    back = [] ∧ k < c.links.length ∧ ∃ messages, front = messages.map (.heard k) ∧
      (a = .hangUp k ∧ messages = [] ∨ ∃ bytes left, a = .receive k bytes ∧
        Reads ((c.link k).buffer ++ bytes) messages left ∧ BadStart left) := by
  have hmem : .stopped k ∈ c.moments a := by
    rw [h]
    simp
  cases occurs_of_mem hmem with
  | unreadable _ bytes hread =>
    have hk : k < c.links.length := by
      by_contra hge
      rw [link_of_length_le c (Nat.le_of_not_lt hge)] at hread
      cases hread
    simp only [moments] at h hmem
    split at h
    · next hheld =>
      rw [if_pos hheld] at hmem
      obtain ⟨left, hreads, hend⟩ := reads_of_scan ((c.link k).buffer ++ bytes)
      rcases hend with ⟨hnone, hbad⟩ | ⟨hsome, -⟩
      · rw [hnone, ending] at h
        have hfront : front = (scan ((c.link k).buffer ++ bytes)).1.map (.heard k) ∧ back = [] := by
          rw [List.append_eq_append_iff] at h
          rcases h with ⟨rest, hfront, hrest⟩ | ⟨rest, hheard, hrest⟩
          · cases rest with
            | nil => exact ⟨by rw [hfront, List.append_nil], (List.cons.inj hrest).2.symm⟩
            | cons m rest => simp at hrest
          · cases rest with
            | nil => exact ⟨by rw [hheard, List.append_nil], (List.cons.inj hrest).2⟩
            | cons m rest =>
              -- the reader would have stopped among the messages
              obtain ⟨rfl, -⟩ := List.cons.inj hrest
              have hin : Moment.stopped k
                  ∈ (scan ((c.link k).buffer ++ bytes)).1.map (.heard k) := by
                rw [hheard]
                simp
              simp at hin
        exact ⟨hfront.2, hk, _, hfront.1, .inr ⟨bytes, left, rfl, hreads, hbad⟩⟩
      · rw [hsome, ending] at hmem
        simp at hmem
    · cases front <;> cases h
  | hungUp _ hk =>
    rw [moments, if_pos hk] at h
    cases front with
    | nil => exact ⟨(List.cons.inj h).2.symm, hk, [], rfl, .inl ⟨rfl, rfl⟩⟩
    | cons m front => simp at h

/-- The moments at which a reader reads messages, up to what it cannot read. -/
theorem moments_receive {messages : List Incoming} {bytes left : List UInt8}
    (hheld : c.isHeld k = true) (hread : (c.link k).reading = true)
    (hreads : Reads ((c.link k).buffer ++ bytes) messages left) :
    (BadStart left → c.moments (.receive k bytes) = messages.map (.heard k) ++ [.stopped k]) ∧
      (Frame.read left = .done ∨ Frame.read left = .cut →
        c.moments (.receive k bytes) = messages.map (.heard k) ++ [.kept k left]) := by
  rw [moments, hheld, hread, hreads.scan_eq]
  constructor
  · intro hbad
    rw [scan_of_badStart hbad, List.append_nil]
    rfl
  · rintro (hdone | hcut)
    · rw [scan_of_done hdone, List.append_nil]
      rfl
    · rw [scan_of_cut hcut, List.append_nil]
      rfl

/-- Bytes behind a frame that cannot be read have no effect. -/
theorem receive_append_of_badStart {messages : List Incoming} {bytes left : List UInt8}
    (hreads : Reads ((c.link k).buffer ++ bytes) messages left) (hbad : BadStart left)
    (more : List UInt8) : c.receive k (bytes ++ more) = c.receive k bytes := by
  -- both times the scan ends at the same frame
  have hscan := hreads.scan_of_badStart hbad
  have hmore := scan_append_of_stop hscan more
  rw [List.append_assoc] at hmore
  have hfeed : (c.link k).feed (bytes ++ more) = (c.link k).feed bytes := by
    rw [Link.feed, Link.feed, Link.drain_eq, Link.drain_eq, hscan, hmore]
  rw [receive, receive, hfeed]

/-! ## Who is lost -/

variable {id : Nat} {call : Call}

/-- A call that has ended stays as it is. -/
theorem Sound.call?_after_of_ended (h : c.Sound) (hcall : c.call? id = some call)
    (hend : (∃ r, call.phase = .done r) ∨ call.phase = .abandoned) (ms : List Moment) :
    (c.after ms).call? id = some call := by
  induction ms generalizing c with
  | nil => exact hcall
  | cons m ms ih =>
    refine ih (h.advance m) ?_
    have hstays : c.react call m = call.phase := by
      rcases hend with ⟨r, hdone⟩ | hgone
      · rw [hdone, react_of_done hdone]
      · rw [hgone, react_of_abandoned hgone]
    rw [h.call?_advance hcall m, hstays]

/-- The moments at which a call ends that has lost its connection before its request was written:
the request is written, cannot be written, or is given up. -/
def settles (id : Nat) : Moment → Bool
  | .sent i | .failed i | .dropped i => i == id
  | _ => false

/-- How far such a call is, by the first of these moments: it returns the loss unless it was given
up. -/
def lossPhase (k : Nat) (failure : Failure) : Option Moment → Phase
  | none => .registered k .lost
  | some (.dropped _) => .abandoned
  | some _ => .done (.error failure)

theorem lossPhase_some (k : Nat) (failure : Failure) (m : Moment) :
    lossPhase k failure (some m) = .done (.error failure) ∨
      lossPhase k failure (some m) = .abandoned := by
  cases m with
  | dropped i => exact .inr rfl
  | _ => exact .inl rfl

/-- One moment of a call that has lost its connection before its request was written. -/
theorem react_of_lost (hphase : call.phase = .registered k .lost) (m : Moment) :
    c.react call m = lossPhase k c.lost (if settles call.id m then some m else none) := by
  obtain ⟨i, method, request, phase⟩ := call
  obtain rfl : phase = _ := hphase
  cases m with
  | acquired j dial => exact ite_self _
  | registered j => exact ite_self _
  | heard j message =>
    cases message with
    | notification method params => rfl
    | reply j outcome =>
      cases j with
      | none => rfl
      | some j => exact ite_self _
  | sent j | failed j | dropped j =>
    by_cases hj : i = j
    · subst hj
      simp only [react, Call.turn, Call.onWritten, Call.onFailure, Call.onDrop, settles,
        beq_self_eq_true, if_true, lossPhase]
    · have hne : (j == i) = false := beq_eq_false_iff_ne.2 (Ne.symm hj)
      simp only [react, Call.turn, settles, hne, if_neg hj, Bool.false_eq_true, if_false, lossPhase]
  | _ => rfl

/-- **A call that has lost its connection before its request was written** ends at the first moment
that settles it. -/
theorem Sound.call?_after_of_lost (h : c.Sound) (hcall : c.call? id = some call)
    (hphase : call.phase = .registered k .lost) (ms : List Moment) :
    (c.after ms).call? id
      = some { call with phase := lossPhase k c.lost (ms.find? (settles id)) } := by
  have hid := id_of_call? hcall
  induction ms generalizing c with
  | nil =>
    show c.call? id = some { call with phase := .registered k .lost }
    rw [hcall, ← hphase]
  | cons m ms ih =>
    have hreact : c.react call m = lossPhase k c.lost (if settles id m then some m else none) :=
      hid ▸ react_of_lost hphase m
    have hnext := h.call?_advance hcall m
    rw [hreact] at hnext
    by_cases hm : settles id m = true
    · -- it has ended, and what follows does not matter
      rw [if_pos hm] at hnext
      rw [after_cons, List.find?_cons_of_pos hm]
      refine (h.advance m).call?_after_of_ended hnext ?_ ms
      exact (lossPhase_some k c.lost m).imp_left fun hdone => ⟨_, hdone⟩
    · rw [if_neg hm, lossPhase, ← hphase] at hnext
      rw [after_cons, List.find?_cons_of_neg hm, ih (h.advance m) hnext, lost_advance]

/-- The request of a call that has lost its connection is written, or not: the call ends all the
same. -/
theorem Sound.result?_write_of_lost (h : c.Sound) (hcall : c.call? id = some call)
    (hphase : call.phase = .registered k .lost) (succeeds : Bool) :
    (c.write id succeeds).result? id = some (.error c.lost) := by
  -- the first moment of the step settles the call
  obtain ⟨m, ms, hmoments, hm, hended⟩ : ∃ m ms, c.moments (.write id succeeds) = m :: ms ∧
      settles id m = true ∧ lossPhase k c.lost (some m) = .done (.error c.lost) := by
    obtain ⟨i, method, request, phase⟩ := call
    obtain rfl : phase = _ := hphase
    cases succeeds with
    | true => exact ⟨.sent id, [], by simp only [moments, hcall, if_true], beq_self_eq_true id, rfl⟩
    | false =>
      exact ⟨.failed id, [.closed k], by simp only [moments, hcall, Bool.false_eq_true, if_false],
        beq_self_eq_true id, rfl⟩
  rw [h.write_eq, hmoments, result?, h.call?_after_of_lost hcall hphase,
    List.find?_cons_of_pos hm, hended]

/-- A call that waits for its reply ends when the reader of its connection stops. -/
theorem Sound.result?_advance_stopped (h : c.Sound) (hcall : c.call? id = some call)
    (hphase : call.phase = .sent k) :
    (c.advance (.stopped k)).result? id = some (.error c.lost) := by
  have hloss : c.react call (.stopped k) = .done (.error c.lost) := by
    simp only [react, Call.turn, Call.onLoss, hphase, if_true]
  rw [result?, h.call?_advance hcall, hloss]

/-- A call whose request is still to be written learns of the loss when the reader of its connection
stops. -/
theorem Sound.call?_advance_stopped_of_pending (h : c.Sound) (hcall : c.call? id = some call)
    (hphase : call.phase = .registered k .pending) :
    (c.advance (.stopped k)).call? id = some { call with phase := .registered k .lost } := by
  have hloss : c.react call (.stopped k) = .registered k .lost := by
    simp only [react, Call.turn, Call.onLoss, hphase, if_true]
  rw [h.call?_advance hcall, hloss]

/-- All other calls are as they were. -/
theorem Sound.call?_advance_stopped_of_not_waitsOn (h : c.Sound) (hno : ¬ c.WaitsOn id k) :
    (c.advance (.stopped k)).call? id = c.call? id := by
  rcases hcall : c.call? id with _ | call
  · rcases h.call?_advance_of_none hcall (.stopped k) with hnone | ⟨method, params, hm, -⟩
    · exact hnone
    · cases hm
  · have hp : call.isPending k = false := by
      rw [Bool.eq_false_iff]
      intro hp
      exact hno ⟨call, hcall, hp⟩
    rw [h.call?_advance hcall (.stopped k)]
    show some { call with phase := call.onLoss k c.lost } = some call
    rw [onLoss_of_not_isPending c.lost hp]

/-- A connection that is closed takes no call. -/
theorem result?_register_of_closed (hclosed : (c.link k).closed = true)
    (hcall : c.call? id = some call) (hphase : call.phase = .acquired k) :
    (c.register id).result? id = some (.error c.lost) := by
  rw [result?, call?_register_self hcall, onRegister, hphase]
  dsimp only
  rw [if_pos hclosed]

/-! ## The next connection -/

/-- The moments that neither concern a call nor end its connection. -/
def foreign (id j : Nat) : Moment → Bool
  | .acquired i _ | .registered i => i != id
  | m => !touches id j m

/-- Such moments leave the call as it is. -/
theorem react_of_foreign {j : Nat} (hlink : ∀ i, call.link? = some i → i = j) {m : Moment}
    (hm : foreign call.id j m = true) : c.react call m = call.phase := by
  have hturn : touches call.id j m = false → call.turn c.lost m = call.phase :=
    Call.turn_of_not_touches c.lost hlink
  cases m with
  | acquired i dial =>
    have hi : call.id ≠ i := Ne.symm (bne_iff_ne.1 hm)
    rw [react, if_neg hi]
  | registered i =>
    have hi : call.id ≠ i := Ne.symm (bne_iff_ne.1 hm)
    rw [react, if_neg hi]
  | _ => exact hturn (by simpa [foreign] using hm)

theorem Sound.call?_after_foreign (h : c.Sound) {j : Nat} (hcall : c.call? id = some call)
    (hlink : ∀ i, call.link? = some i → i = j) {ms : List Moment}
    (hms : ∀ m ∈ ms, foreign id j m = true) : (c.after ms).call? id = some call := by
  have hid := id_of_call? hcall
  induction ms generalizing c with
  | nil => exact hcall
  | cons m ms ih =>
    have hm : foreign call.id j m = true := hid ▸ hms m List.mem_cons_self
    refine ih (h.advance m) ?_ fun m' hm' => hms m' (List.mem_cons_of_mem m hm')
    rw [h.call?_advance hcall m, react_of_foreign hlink hm]

/-- Such moments leave the connection open. -/
theorem flags_after_foreign {j : Nat} (hj : j < c.links.length) {ms : List Moment}
    (hms : ∀ m ∈ ms, foreign id j m = true) : (c.after ms).flags j = c.flags j := by
  induction ms generalizing c with
  | nil => rfl
  | cons m ms ih =>
    have hm := hms m List.mem_cons_self
    have hc : m ≠ .closed j := by
      rintro rfl
      simp [foreign, touches] at hm
    have hs : m ≠ .stopped j := by
      rintro rfl
      simp [foreign, touches] at hm
    rw [after_cons, ih (Nat.lt_of_lt_of_le hj (length_le_advance c m))
      fun m' hm' => hms m' (List.mem_cons_of_mem m hm'), flags_advance hj hc hs]

/-- A call that asks for a connection when the last one is closed opens a new one. -/
theorem acquire_of_closed (hclosed : (c.link c.current).closed = true)
    (hcall : c.call? id = some call) (hphase : call.phase = .started) (dial : Dial) :
    c.acquire id dial =
      match dial.failure? c.address with
      | none => c.openLink.setPhase id fun _ => .acquired c.links.length
      | some failure => c.setPhase id fun _ => .done (.error failure) := by
  obtain ⟨i, method, request, phase⟩ := call
  obtain rfl : phase = .started := hphase
  rw [acquire, hcall]
  refine (if_pos hclosed).trans ?_
  cases dial.failure? c.address <;> rfl

/-- **A call on an open connection is registered, sent and answered**, whatever happens to
others. -/
theorem Sound.served (h : c.Sound) {j : Nat} (hcall : c.call? id = some call)
    (hphase : call.phase = .acquired j) (hopen : (c.link j).closed = false)
    (outcome : ReplyOutcome) {s₁ s₂ s₃ s₄ : List Moment}
    (h₁ : ∀ m ∈ s₁, foreign id j m = true) (h₂ : ∀ m ∈ s₂, foreign id j m = true)
    (h₃ : ∀ m ∈ s₃, foreign id j m = true) :
    let registered := c.after (s₁ ++ [.registered id])
    let sent := registered.after (s₂ ++ [.sent id])
    let answered := sent.after (s₃ ++ [.heard j (.reply (some id) outcome)])
    registered.call? id = some { call with phase := .registered j .pending } ∧
      sent.call? id = some { call with phase := .sent j } ∧
      (answered.after s₄).result? id = some (call.resultOf outcome) := by
  intro registered sent answered
  have hid := id_of_call? hcall
  have hj : j < c.links.length := h.lt_of_link? id call j hcall (by rw [Call.link?, hphase])
  have hregistered : registered.call? id = some { call with phase := .registered j .pending } := by
    -- meanwhile neither the call nor what its connection is open for has changed
    have hcall₁ : (c.after s₁).call? id = some call := by
      refine h.call?_after_foreign hcall ?_ h₁
      intro i hi
      rw [Call.link?, hphase] at hi
      exact (Option.some.inj hi).symm
    have hopen₁ : ((c.after s₁).link j).closed = false := by
      rw [← hopen]
      exact (Prod.mk.inj (flags_after_foreign hj h₁)).1
    have hreg : (c.after s₁).onRegister call = .registered j .pending := by
      rw [onRegister, hphase]
      dsimp only
      rw [if_neg (by simp [hopen₁])]
    show (c.after (s₁ ++ [.registered id])).call? id = _
    rw [after_append]
    show ((c.after s₁).register id).call? id = _
    rw [call?_register_self hcall₁, hreg]
  have hsent : sent.call? id = some { call with phase := .sent j } := by
    -- it waits on this connection now, and no moment in between concerns it
    have hcall₂ : (registered.after s₂).call? id
        = some { call with phase := .registered j .pending } := by
      refine (h.after _).call?_after_foreign hregistered ?_ h₂
      intro i hi
      exact (Option.some.inj hi).symm
    show (registered.after (s₂ ++ [.sent id])).call? id = _
    rw [after_append]
    show ((registered.after s₂).write id true).call? id = _
    rw [call?_write_self hcall₂]
    rfl
  refine ⟨hregistered, hsent, ?_⟩
  have hsound : sent.Sound := (h.after _).after _
  have hcall₃ : (sent.after s₃).call? id = some { call with phase := .sent j } := by
    refine hsound.call?_after_foreign hsent ?_ h₃
    intro i hi
    exact (Option.some.inj hi).symm
  have hanswered : answered.call? id
      = some { call with phase := .done (call.resultOf outcome) } := by
    show (sent.after (s₃ ++ [.heard j (.reply (some id) outcome)])).call? id = _
    rw [after_append]
    show ((sent.after s₃).hear j (.reply (some id) outcome)).call? id = _
    rw [(hsound.after s₃).call?_hear_self hcall₃]
    simp [Call.onReply, Call.resultOf]
  refine (hsound.after _).result?_after ?_ s₄
  rw [result?, hanswered]

/-- The next call opens a connection, if somebody answers there, and is served on it. -/
structure Reopens (c : Client) (id : Nat) (call : Call) : Prop where
  /-- A connection that cannot be opened fails the call, and no other one. -/
  failed : ∀ dial failure, dial.failure? c.address = some failure →
    (c.acquire id dial).result? id = some (.error failure) ∧
      (c.acquire id dial).links = c.links ∧
      ∀ other, other ≠ id → (c.acquire id dial).call? other = c.call? other
  /-- The new connection is a fresh one. -/
  opened : (c.acquire id .answered).links = c.links ++ [.fresh]
  /-- On it the call goes its way, whatever happens to others meanwhile. -/
  served : ∀ outcome s₁ s₂ s₃ s₄, (∀ m ∈ s₁ ++ s₂ ++ s₃, foreign id c.links.length m = true) →
    let registered := (c.acquire id .answered).after (s₁ ++ [.registered id])
    let sent := registered.after (s₂ ++ [.sent id])
    let answered := sent.after (s₃ ++ [.heard c.links.length (.reply (some id) outcome)])
    registered.call? id = some { call with phase := .registered c.links.length .pending } ∧
      sent.call? id = some { call with phase := .sent c.links.length } ∧
      (answered.after s₄).result? id = some (call.resultOf outcome)

/-- On a client whose last connection is closed the next call opens one. -/
theorem Sound.reopens (h : c.Sound) (hclosed : (c.link c.current).closed = true)
    (hcall : c.call? id = some call) (hphase : call.phase = .started) : c.Reopens id call where
  failed := by
    intro dial failure hfailure
    rw [acquire_of_closed hclosed hcall hphase, hfailure]
    dsimp only
    refine ⟨?_, rfl, fun other hother => call?_setPhase_of_ne c _ hother⟩
    rw [result?, call?_setPhase_self, hcall]
    rfl
  opened := by
    rw [acquire_of_closed hclosed hcall hphase]
    rfl
  served := by
    intro outcome s₁ s₂ s₃ s₄ hforeign
    have hnew : (c.acquire id .answered).call? id =
        some { call with phase := .acquired c.links.length } := by
      rw [call?_acquire_self hcall, onAcquire, hphase]
      dsimp only
      rw [if_pos hclosed]
      rfl
    have hopen : ((c.acquire id .answered).link c.links.length).closed = false := by
      rw [acquire_of_closed hclosed hcall hphase]
      show (c.openLink.link c.links.length).closed = false
      rw [link_openLink, if_pos rfl]
      rfl
    refine (h.acquire id .answered).served hnew rfl hopen outcome ?_ ?_ ?_
    · intro m hm
      exact hforeign m (by simp [hm])
    · intro m hm
      exact hforeign m (by simp [hm])
    · intro m hm
      exact hforeign m (by simp [hm])

/-! ## The result -/

/-- A closed connection takes no call: none waits there, and one that asks to is lost. -/
structure TakesNoCall (c : Client) (k : Nat) : Prop where
  waiting : (c.link k).waiting = []
  noneWaits : ∀ id, ¬ c.WaitsOn id k
  noneRegisters : ∀ id, (c.link k).register id = none
  lost : ∀ id call, c.call? id = some call → call.phase = .acquired k →
    (c.register id).result? id = some (.error c.lost)

theorem Sound.takesNoCall (h : c.Sound) (hclosed : (c.link k).closed = true) : c.TakesNoCall k where
  waiting := h.waiting_of_closed k hclosed
  noneWaits := by
    rintro id ⟨call, hcall, hp⟩
    rw [h.not_isPending hclosed hcall] at hp
    cases hp
  noneRegisters := by
    intro id
    rw [Link.register, if_pos hclosed]
  lost := fun id call hcall hphase => result?_register_of_closed hclosed hcall hphase

/-- What has come of a client when the reader of a connection has stopped and some more moments have
passed. -/
structure TornDown (before : Client) (k : Nat) (part : List Moment) (after : Client) : Prop where
  /-- The connection is closed. -/
  closed : (after.link k).closed = true
  /-- The calls that waited for their reply have returned the loss. -/
  sent : ∀ id call, before.call? id = some call → call.phase = .sent k →
    after.result? id = some (.error before.lost)
  /-- Those whose request was still to be written return the loss once it is written or its writing
  fails, unless they are given up first. -/
  unwritten : ∀ id call, before.call? id = some call → call.phase = .registered k .pending →
    after.call? id = some { call with phase := lossPhase k before.lost (part.find? (settles id)) }
  /-- Results are kept. -/
  kept : ∀ id r, before.result? id = some r → after.result? id = some r
  /-- Nothing that arrives has an effect. -/
  silent : ∀ bytes, after.receive k bytes = (after, [])
  /-- The next call opens a connection, if none has been opened since. -/
  reopens : after.current = k → ∀ id call, after.call? id = some call → call.phase = .started →
    after.Reopens id call

theorem Sound.tornDown (h : c.Sound) (hk : k < c.links.length) (part : List Moment) :
    TornDown c k part (c.after (.stopped k :: part)) := by
  have hflags : (c.after (.stopped k :: part)).flags k = (true, false) := by
    refine flags_after ?_ (flags_advance_stopped hk) part
    exact Nat.lt_of_lt_of_le hk (length_le_advance c _)
  have hclosed : ((c.after (.stopped k :: part)).link k).closed = true := (Prod.mk.inj hflags).1
  have hsound := h.after (.stopped k :: part)
  refine ⟨hclosed, ?_, ?_, ?_, ?_, ?_⟩
  · intro id call hcall hphase
    exact (h.advance _).result?_after (h.result?_advance_stopped hcall hphase) part
  · intro id call hcall hphase
    have hlost := h.call?_advance_stopped_of_pending hcall hphase
    rw [after_cons, (h.advance _).call?_after_of_lost hlost rfl part, lost_advance]
  · intro id r hr
    exact h.result?_after hr (.stopped k :: part)
  · intro bytes
    exact hsound.receive_of_not_reading (Prod.mk.inj hflags).2 bytes
  · intro hcurrent id call hcall hphase
    refine hsound.reopens ?_ hcall hphase
    rw [hcurrent]
    exact hclosed

/-- The address never changes. -/
theorem lost_after (c : Client) (ms : List Moment) : (c.after ms).lost = c.lost := by
  induction ms generalizing c with
  | nil => rfl
  | cons m ms ih => rw [after_cons, ih, lost_advance]

/-- **The end of a connection**, in every run of a client.  At every moment a closed connection
takes no call.  A reader reads messages up to a frame that it cannot read, and bytes behind that do
not matter.  It stops only there or when the other side hangs up; then every call that waits for its
reply on the connection has returned the loss, every one that waits with its request still to be
written has learned of the loss, and all others are as they were, nothing is heard on the connection
any more, and from then on the client is torn down from it.  A call that has learned of the loss
returns it when its request is written, and when that fails. -/
theorem teardown_of_connection (address : String) (as : List Action) :
    let start := connected address
    let ms := start.unroll as
    (∀ part k, part <+: ms → ((start.after part).link k).closed = true →
      (start.after part).TakesNoCall k) ∧
    (∀ k bytes messages left, (start.run as).isHeld k = true →
      ((start.run as).link k).reading = true →
      Reads (((start.run as).link k).buffer ++ bytes) messages left →
      (BadStart left →
        (start.run as).moments (.receive k bytes) = messages.map (.heard k) ++ [.stopped k] ∧
          ∀ more, (start.run as).receive k (bytes ++ more) = (start.run as).receive k bytes) ∧
      (Frame.read left = .done ∨ Frame.read left = .cut →
        (start.run as).moments (.receive k bytes) = messages.map (.heard k) ++ [.kept k left])) ∧
    (∀ before behind k, ms = before ++ .stopped k :: behind →
      (∃ done a next messages, as = done ++ a :: next ∧
        before = start.unroll done ++ messages.map (.heard k) ∧
        (a = .hangUp k ∧ messages = [] ∨ ∃ bytes left, a = .receive k bytes ∧
          Reads (((start.run done).link k).buffer ++ bytes) messages left ∧ BadStart left)) ∧
      (∀ id call, (start.after before).call? id = some call → call.phase = .sent k →
        (start.after (before ++ [.stopped k])).result? id = some (.error start.lost)) ∧
      (∀ id call, (start.after before).call? id = some call →
        call.phase = .registered k .pending →
        (start.after (before ++ [.stopped k])).call? id
          = some { call with phase := .registered k .lost }) ∧
      (∀ id, ¬ (start.after before).WaitsOn id k →
        (start.after (before ++ [.stopped k])).call? id = (start.after before).call? id) ∧
      (∀ message, .heard k message ∉ behind) ∧
      (∀ part, part <+: behind →
        TornDown (start.after before) k part (start.after (before ++ .stopped k :: part)))) ∧
    (∀ k id call succeeds, (start.run as).call? id = some call →
      call.phase = .registered k .lost →
      ((start.run as).write id succeeds).result? id = some (.error start.lost)) := by
  intro start ms
  have hstart : start.Sound := sound_connected address
  have hrun := hstart.run as
  refine ⟨?_, ?_, ?_, ?_⟩
  · intro part k _ hclosed
    exact (hstart.after part).takesNoCall hclosed
  · intro k bytes messages left hheld hread hreads
    obtain ⟨hbad, hincomplete⟩ := moments_receive hheld hread hreads
    refine ⟨fun h => ⟨hbad h, ?_⟩, hincomplete⟩
    intro more
    exact receive_append_of_badStart hreads h more
  · intro before behind k hms
    -- the step at which the reader stops, and the messages that it has read in it
    obtain ⟨done, a, next, front, back, rfl, rfl, ha, rfl⟩ := unroll_split hms
    obtain ⟨rfl, hk, messages, rfl, hcause⟩ := moments_of_stopped ha
    have hbefore := hstart.after (start.unroll done ++ messages.map (.heard k))
    have hk' : k < (start.after (start.unroll done ++ messages.map (.heard k))).links.length := by
      rw [after_append, ← hstart.run_eq]
      exact Nat.lt_of_lt_of_le hk (length_le_after _ _)
    have hstopped : start.after (start.unroll done ++ messages.map (.heard k) ++ [.stopped k])
        = (start.after (start.unroll done ++ messages.map (.heard k))).advance (.stopped k) := by
      rw [after_append start _ [.stopped k]]
      rfl
    have hlost := lost_after start (start.unroll done ++ messages.map (.heard k))
    refine ⟨⟨done, a, next, messages, rfl, rfl, hcause⟩, ?_, ?_, ?_, ?_, ?_⟩
    · intro id call hcall hphase
      rw [hstopped, ← hlost]
      exact hbefore.result?_advance_stopped hcall hphase
    · intro id call hcall hphase
      rw [hstopped]
      exact hbefore.call?_advance_stopped_of_pending hcall hphase
    · intro id hno
      rw [hstopped]
      exact hbefore.call?_advance_stopped_of_not_waitsOn hno
    · intro message hmem
      have hstep : ((start.run done).step a).1
          = (start.after (start.unroll done ++ messages.map (.heard k))).advance (.stopped k) := by
        rw [(hstart.run done).step_eq, ha, hstart.run_eq done, ← after_append, ← List.append_assoc,
          hstopped]
      rw [List.nil_append, hstep] at hmem
      refine (hbefore.advance _).not_heard_of_stopped ?_ (flags_advance_stopped hk') next message
        hmem
      exact Nat.lt_of_lt_of_le hk' (length_le_advance _ _)
    · intro part _
      have hpart := hbefore.tornDown hk' part
      rwa [← after_append] at hpart
  · intro k id call succeeds hcall hphase
    have hsame : start.lost = (start.run as).lost := by
      rw [hstart.run_eq, lost_after]
    rw [hsame]
    exact hrun.result?_write_of_lost hcall hphase succeeds

end Client

end AssetSearch.Wire
