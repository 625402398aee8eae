/-
# What the reader of a connection publishes

The events that a connection publishes are those of the messages in the bytes that have reached its
reader, whatever the pieces in which these arrived and whatever calls came and went meanwhile.  When
a call is completed, the events in front of its reply have been published and no others.

Key definitions: `understood`, `Brings`, `Client.arrived`, `Client.effects`.  Key statements:
`brings_run`, `publications_of_stream`.
-/
import AssetSearch.Proofs.Wire.Endings
import AssetSearch.Proofs.Wire.ReplyMatching
import AssetSearch.Proofs.Wire.Teardown

namespace AssetSearch.Wire

open Progress (Event)

/-! ## The messages of a stream -/

/-- The event that a message brings. -/
def Incoming.event? : Incoming → Option Event
  | .notification method params => eventOf? method params
  | .reply _ _ => none

/-- The messages in some frames, up to the first that cannot be understood. -/
def understood : List (List UInt8) → List Incoming
  | [] => []
  | payload :: payloads =>
    match Incoming.ofBytes payload with
    | .ok m => m :: understood payloads
    | .error _ => []

theorem understood_of_ok {payload : List UInt8} {m : Incoming}
    (h : Incoming.ofBytes payload = .ok m) (payloads : List (List UInt8)) :
    understood (payload :: payloads) = m :: understood payloads := by
  rw [understood, h]

theorem understood_of_error {payload : List UInt8} {e : Failure}
    (h : Incoming.ofBytes payload = .error e) (payloads : List (List UInt8)) :
    understood (payload :: payloads) = [] := by
  rw [understood, h]

/-- Scanning finds the messages of all frames, up to the first that cannot be understood. -/
theorem scan_fst (bytes : List UInt8) : (scan bytes).1 = understood (Frame.readAll bytes).1 := by
  fun_induction scan bytes with
  | case1 bytes payload rest hread e hbad =>
    rw [Frame.readAll_of_frame hread, understood_of_error hbad]
  | case2 bytes payload rest hread m hm ms left hscan ih =>
    rw [hscan] at ih
    rw [Frame.readAll_of_frame hread, understood_of_ok hm, ← ih]
  | case3 bytes n rest hread => rw [Frame.readAll_of_oversized hread, understood]
  | case4 bytes hread => rw [Frame.readAll_of_done hread, understood]
  | case5 bytes hread => rw [Frame.readAll_of_cut hread, understood]

/-- An incomplete frame is all that is found in it. -/
theorem scan_left {bytes left : List UInt8} (h : (scan bytes).2 = some left) :
    scan left = ([], some left) := by
  obtain ⟨behind, -, ⟨hnone, -⟩ | ⟨hsome, hend⟩⟩ := reads_of_scan bytes
  · rw [hnone] at h
    cases h
  · obtain rfl := Option.some.inj (hsome.symm.trans h)
    rcases hend with hdone | hcut
    · exact scan_of_done hdone
    · exact scan_of_cut hcut

/-- Bytes that arrive later continue the incomplete frame. -/
theorem scan_append {bytes left : List UInt8} (h : (scan bytes).2 = some left)
    (more : List UInt8) :
    scan (bytes ++ more)
      = ((scan bytes).1 ++ (scan (left ++ more)).1, (scan (left ++ more)).2) := by
  obtain ⟨behind, hreads, ⟨hnone, -⟩ | ⟨hsome, -⟩⟩ := reads_of_scan bytes
  · rw [hnone] at h
    cases h
  · obtain rfl := Option.some.inj (hsome.symm.trans h)
    exact (hreads.append more).scan_eq

/-! ## Messages and their effects -/

/-- Messages have some effects, in this order: events are published, replies complete calls or do
not, and nothing else has an effect. -/
inductive Brings : List Incoming → List Effect → Prop where
  | nil : Brings [] []
  | published {m : Incoming} {e : Event} {ms : List Incoming} {effects : List Effect}
      (event : m.event? = some e) (more : Brings ms effects) :
      Brings (m :: ms) (.publish e :: effects)
  | completed {id : Nat} {outcome : ReplyOutcome} {ms : List Incoming} {effects : List Effect}
      (more : Brings ms effects) :
      Brings (.reply (some id) outcome :: ms) (.complete id outcome :: effects)
  | silent {m : Incoming} {ms : List Incoming} {effects : List Effect}
      (event : m.event? = none) (more : Brings ms effects) : Brings (m :: ms) effects

namespace Brings

variable {ms ms' : List Incoming} {effects effects' : List Effect}

theorem append (h : Brings ms effects) (h' : Brings ms' effects') :
    Brings (ms ++ ms') (effects ++ effects') := by
  induction h with
  | nil => exact h'
  | published event _ ih => exact .published event ih
  | completed _ ih => exact .completed ih
  | silent event _ ih => exact .silent event ih

/-- **The published events are those of the messages.** -/
theorem filterMap_event? (h : Brings ms effects) :
    effects.filterMap Effect.event? = ms.filterMap Incoming.event? := by
  induction h with
  | nil => rfl
  | published event _ ih =>
    rw [List.filterMap_cons_some event, ← ih]
    rfl
  | completed _ ih => exact ih
  | silent event _ ih => rw [List.filterMap_cons_none event, ih]

/-- **A call is completed by a reply**, after the effects of the messages in front of it. -/
theorem split_of_complete {front back : List Effect} {id : Nat} {outcome : ReplyOutcome}
    (h : Brings ms (front ++ .complete id outcome :: back)) :
    ∃ before behind, ms = before ++ .reply (some id) outcome :: behind ∧ Brings before front := by
  generalize heffects : front ++ .complete id outcome :: back = effects at h
  induction h generalizing front with
  | nil => simp at heffects
  | @published m e ms effects event _ ih =>
    rcases front with _ | ⟨first, front⟩
    · cases heffects
    · obtain ⟨rfl, hrest⟩ := List.cons.inj heffects
      obtain ⟨before, behind, rfl, hbefore⟩ := ih hrest
      exact ⟨m :: before, behind, rfl, .published event hbefore⟩
  | @completed i o ms effects _ ih =>
    rcases front with _ | ⟨first, front⟩
    · obtain ⟨hfirst, -⟩ := List.cons.inj heffects
      cases hfirst
      exact ⟨[], ms, rfl, .nil⟩
    · obtain ⟨rfl, hrest⟩ := List.cons.inj heffects
      obtain ⟨before, behind, rfl, hbefore⟩ := ih hrest
      exact ⟨.reply (some i) o :: before, behind, rfl, .completed hbefore⟩
  | @silent m ms effects event _ ih =>
    obtain ⟨before, behind, rfl, hbefore⟩ := ih heffects
    exact ⟨m :: before, behind, rfl, .silent event hbefore⟩

end Brings

namespace Link

theorem brings_handle (l : Link) (m : Incoming) : Brings [m] (l.handle m).2 := by
  cases m with
  | notification method params =>
    cases hevent : eventOf? method params with
    | none =>
      rw [handle, hevent]
      exact .silent hevent .nil
    | some e =>
      rw [handle, hevent]
      exact .published hevent .nil
  | reply id outcome =>
    cases id with
    | none => exact .silent rfl .nil
    | some id =>
      rw [handle]
      split
      · exact .completed .nil
      · exact .silent rfl .nil

/-- Handling messages has their effects. -/
theorem brings_handleAll (l : Link) (ms : List Incoming) : Brings ms (l.handleAll ms).2 := by
  induction ms generalizing l with
  | nil => exact .nil
  | cons m ms ih => exact (l.brings_handle m).append (ih (l.handle m).1)

theorem handleAll_append (l : Link) (ms ms' : List Incoming) :
    l.handleAll (ms ++ ms') =
      (((l.handleAll ms).1.handleAll ms').1,
        (l.handleAll ms).2 ++ ((l.handleAll ms).1.handleAll ms').2) := by
  induction ms generalizing l with
  | nil => rfl
  | cons m ms ih =>
    simp only [List.cons_append, handleAll, ih, List.append_assoc]

end Link

namespace Client

variable {c : Client} {k : Nat}

/-! ## What a reader has -/

/-- The bytes of the incomplete frame that the reader of a connection has; nothing once it has
stopped, and no bytes before the connection is opened. -/
def inbox (c : Client) (k : Nat) : Option (List UInt8) :=
  if k < c.links.length then if (c.link k).reading then some (c.link k).buffer else none
  else some []

theorem inbox_eq_none_iff : c.inbox k = none ↔ k < c.links.length ∧ (c.link k).reading = false := by
  unfold inbox
  by_cases hk : k < c.links.length
  · rw [if_pos hk]
    split <;> simp_all
  · simp [hk]

theorem inbox_eq_some_iff (hk : k < c.links.length) {b : List UInt8} :
    c.inbox k = some b ↔ (c.link k).reading = true ∧ (c.link k).buffer = b := by
  unfold inbox
  rw [if_pos hk]
  split <;> simp_all

theorem inbox_setLink {j : Nat} {l : Link} (hr : l.reading = (c.link j).reading)
    (hb : l.buffer = (c.link j).buffer) : (c.setLink j l).inbox k = c.inbox k := by
  rw [inbox, inbox, length_links_setLink]
  by_cases hj : j < c.links.length
  · by_cases hkj : k = j
    · subst hkj
      rw [link_setLink_self c hj, hr, hb]
    · rw [link_setLink_of_ne c l hkj]
  · rw [setLink_of_length_le c (Nat.le_of_not_lt hj)]

theorem inbox_setLink_of_ne {j : Nat} (h : k ≠ j) (l : Link) :
    (c.setLink j l).inbox k = c.inbox k := by
  rw [inbox, inbox, length_links_setLink, link_setLink_of_ne c l h]

/-- A connection that is opened has had nothing before and has nothing yet. -/
theorem inbox_openLink (c : Client) (k : Nat) : c.openLink.inbox k = c.inbox k := by
  rw [inbox, inbox, length_links_openLink, link_openLink]
  by_cases hk : k = c.links.length
  · subst hk
    simp [Link.fresh]
  · by_cases hlt : k < c.links.length
    · rw [if_pos (Nat.lt_succ_of_lt hlt), if_pos hlt, if_neg hk]
    · rw [if_neg (by omega), if_neg hlt]

/-- Only the reader itself changes what it has. -/
theorem inbox_advance {m : Moment} (hkept : ∀ bytes, m ≠ .kept k bytes) (hs : m ≠ .stopped k) :
    (c.advance m).inbox k = c.inbox k := by
  have h := change_advance c m
  generalize c.advance m = c' at h
  cases h with
  | begun method params => rfl
  | same => rfl
  | moved _ _ id f => rfl
  | opened id dial f => exact inbox_openLink c k
  | listed _ _ id f j l _ hreading hbuffer =>
    exact inbox_setLink (c := c.setPhase id f) hreading hbuffer
  | kept j bytes =>
    refine inbox_setLink_of_ne ?_ _
    rintro rfl
    exact hkept bytes rfl
  | closed j => exact inbox_setLink rfl rfl
  | stopped j =>
    refine inbox_setLink_of_ne ?_ _
    rintro rfl
    exact hs rfl

theorem inbox_after {ms : List Moment}
    (hms : ∀ m ∈ ms, (∀ bytes, m ≠ .kept k bytes) ∧ m ≠ .stopped k) :
    (c.after ms).inbox k = c.inbox k := by
  induction ms generalizing c with
  | nil => rfl
  | cons m ms ih =>
    obtain ⟨hkept, hs⟩ := hms m List.mem_cons_self
    rw [after_cons, ih fun m' hm' => hms m' (List.mem_cons_of_mem m hm'), inbox_advance hkept hs]

/-! ## Runs, seen from one connection -/

/-- Whether bytes arrive on a connection in a step. -/
def Action.arrivesOn (k : Nat) : Action → Bool
  | .receive j _ => j == k
  | _ => false

/-- The bytes that reach the reader of a connection in a step: one that nobody holds is dropped. -/
def arrivedIn (c : Client) (k : Nat) : Action → List UInt8
  | .receive j bytes => if j == k && c.isHeld k then bytes else []
  | _ => []

/-- Whether the other side hangs up on a connection in a step. -/
def cutsOff (c : Client) (k : Nat) : Action → Bool
  | .hangUp j => j == k && k < c.links.length
  | _ => false

/-- The bytes that reach the reader of a connection in a run; none come after the other side has
hung up. -/
def arrived (k : Nat) (c : Client) : List Action → List UInt8
  | [] => []
  | a :: as => c.arrivedIn k a ++ if c.cutsOff k a then [] else (c.step a).1.arrived k as

/-- The effects of what arrives on a connection in a run, in order. -/
def effects (k : Nat) (c : Client) : List Action → List Effect
  | [] => []
  | a :: as => (if a.arrivesOn k then (c.step a).2 else []) ++ (c.step a).1.effects k as

theorem effects_append (k : Nat) (c : Client) (as as' : List Action) :
    c.effects k (as ++ as') = c.effects k as ++ (c.run as).effects k as' := by
  induction as generalizing c with
  | nil => rfl
  | cons a as ih => rw [List.cons_append, effects, effects, ih, run_cons, List.append_assoc]

/-- The effects of one piece of bytes are those of its arrival. -/
theorem effects_receive (c : Client) (k : Nat) (bytes : List UInt8) (as : List Action) :
    c.effects k (.receive k bytes :: as)
      = (c.receive k bytes).2 ++ (c.step (.receive k bytes)).1.effects k as := by
  have ha : Action.arrivesOn k (.receive k bytes) = true := beq_self_eq_true k
  rw [effects, if_pos ha]
  rfl

theorem Sound.step (h : c.Sound) (a : Action) : (c.step a).1.Sound := by
  rw [h.step_eq]
  exact h.after _

/-- A connection that is held exists. -/
theorem Sound.lt_of_isHeld (h : c.Sound) (hheld : c.isHeld k = true) : k < c.links.length := by
  rw [isHeld, Bool.or_eq_true, List.any_eq_true] at hheld
  rcases hheld with hcurrent | ⟨call, hmem, hlink⟩
  · rw [of_decide_eq_true hcurrent]
    exact h.current_lt
  · exact h.lt_of_link? call.id call k (h.call?_of_mem hmem) (of_decide_eq_true hlink)

/-- Steps in which nothing arrives on a connection and nobody hangs up there leave its reader
alone. -/
theorem Sound.inbox_step (h : c.Sound) {a : Action} (ha : a.arrivesOn k = false)
    (hcut : c.cutsOff k a = false) : (c.step a).1.inbox k = c.inbox k := by
  rw [h.step_eq]
  refine inbox_after fun m hm => ?_
  cases occurs_of_mem hm with
  | kept j bytes left =>
    have hj : j ≠ k := by simpa [Action.arrivesOn] using ha
    exact ⟨fun _ heq => hj (Moment.kept.inj heq).1, nofun⟩
  | unreadable j bytes =>
    have hj : j ≠ k := by simpa [Action.arrivesOn] using ha
    exact ⟨nofun, fun heq => hj (Moment.stopped.inj heq)⟩
  | hungUp j hlt =>
    have hj : j ≠ k := by
      rintro rfl
      simp [cutsOff, hlt] at hcut
    exact ⟨nofun, fun heq => hj (Moment.stopped.inj heq)⟩
  | _ => exact ⟨nofun, nofun⟩

/-- A reader that has stopped has no more effects. -/
theorem Sound.effects_of_stopped (h : c.Sound) (hstopped : c.inbox k = none) (as : List Action) :
    c.effects k as = [] := by
  induction as generalizing c with
  | nil => rfl
  | cons a as ih =>
    have hk := inbox_eq_none_iff.1 hstopped
    have hsound := h.step a
    by_cases ha : a.arrivesOn k = true
    · obtain ⟨bytes, rfl⟩ : ∃ bytes, a = .receive k bytes := by
        cases a <;> simp_all [Action.arrivesOn]
      have hstep : c.step (.receive k bytes) = (c, []) := h.receive_of_not_reading hk.2 bytes
      rw [effects_receive, hstep, h.receive_of_not_reading hk.2, ih h hstopped]
      rfl
    · rw [effects, if_neg ha, List.nil_append]
      refine ih hsound ?_
      by_cases hcut : c.cutsOff k a = true
      · -- the other side hangs up once more
        obtain rfl : a = .hangUp k := by
          cases a <;> simp_all [cutsOff]
        have hlength : k < (c.hangUp k).links.length :=
          Nat.lt_of_lt_of_le hk.1 (length_le_advance c (.stopped k))
        have hflags : (c.hangUp k).flags k = (true, false) := flags_advance_stopped hk.1
        show (c.hangUp k).inbox k = none
        exact inbox_eq_none_iff.2 ⟨hlength, (Prod.mk.inj hflags).2⟩
      · rw [h.inbox_step (Bool.eq_false_iff.2 ha) (Bool.eq_false_iff.2 hcut), hstopped]

/-! ## What arrives -/

/-- The reader has what is left at the end of some bytes, or it has stopped. -/
theorem inbox_advance_ending {b : List UInt8} (hk : k < c.links.length)
    (hinbox : c.inbox k = some b) (left : Option (List UInt8)) :
    (c.advance (ending k left)).inbox k = left := by
  have hread := ((inbox_eq_some_iff hk).1 hinbox).1
  cases left with
  | none =>
    refine inbox_eq_none_iff.2 ⟨Nat.lt_of_lt_of_le hk (length_le_advance c _), ?_⟩
    exact (Prod.mk.inj (flags_advance_stopped hk)).2
  | some left =>
    have hk' : k < (c.setLink k { c.link k with buffer := left }).links.length := by
      rwa [length_links_setLink]
    refine (inbox_eq_some_iff hk').2 ?_
    rw [link_setLink_self c hk]
    exact ⟨hread, rfl⟩

/-- While it is read, all messages are heard on a connection, and then the reader keeps what is left
or stops. -/
theorem moments_receive_of_reading (hheld : c.isHeld k = true) (hread : (c.link k).reading = true)
    (bytes : List UInt8) :
    c.moments (.receive k bytes) = (scan ((c.link k).buffer ++ bytes)).1.map (.heard k)
      ++ [ending k (scan ((c.link k).buffer ++ bytes)).2] := by
  rw [moments, hheld, hread]
  rfl

/-- **One piece of bytes**: its messages are handled, and the incomplete frame behind them is
kept. -/
theorem Sound.receive_held (h : c.Sound) (hheld : c.isHeld k = true) {b : List UInt8}
    (hinbox : c.inbox k = some b) (bytes : List UInt8) :
    (c.receive k bytes).2 = ((c.link k).handleAll (scan (b ++ bytes)).1).2 ∧
      (c.receive k bytes).1.inbox k = (scan (b ++ bytes)).2 := by
  have hk := h.lt_of_isHeld hheld
  obtain ⟨hread, rfl⟩ := (inbox_eq_some_iff hk).1 hinbox
  constructor
  · have hdrain := Link.drain_eq (c.link k) ((c.link k).buffer ++ bytes)
    rw [receive, if_pos hheld, Link.feed, if_pos hread, hdrain]
  · have hheard : (c.after ((scan ((c.link k).buffer ++ bytes)).1.map (.heard k))).inbox k
        = some (c.link k).buffer := by
      rw [← hinbox]
      refine inbox_after fun m hm => ?_
      obtain ⟨x, -, rfl⟩ := List.mem_map.1 hm
      constructor
      · intro bytes h
        cases h
      · intro h
        cases h
    rw [h.receive_eq, moments_receive_of_reading hheld hread, after_append]
    exact inbox_advance_ending (Nat.lt_of_lt_of_le hk (length_le_after c _)) hheard _

/-- A connection that nobody holds any more has no more effects. -/
theorem receive_of_not_held (hheld : c.isHeld k = false) (bytes : List UInt8) :
    c.receive k bytes = (c, []) := by
  rw [receive, if_neg (Bool.eq_false_iff.1 hheld)]

/-- **The effects on a connection are those of the messages in what arrives there**, behind the
incomplete frame that its reader has. -/
theorem Sound.brings_run (h : c.Sound) {b : List UInt8} (hinbox : c.inbox k = some b)
    (hleft : scan b = ([], some b)) (as : List Action) :
    Brings (scan (b ++ c.arrived k as)).1 (c.effects k as) := by
  induction as generalizing c b with
  | nil =>
    rw [arrived, List.append_nil, hleft]
    exact .nil
  | cons a as ih =>
    have hsound := h.step a
    by_cases ha : a.arrivesOn k = true
    · obtain ⟨bytes, rfl⟩ : ∃ bytes, a = .receive k bytes := by
        cases a <;> simp_all [Action.arrivesOn]
      have hcut : c.cutsOff k (.receive k bytes) = false := rfl
      rw [effects_receive, arrived, hcut, if_neg Bool.false_ne_true]
      by_cases hheld : c.isHeld k = true
      · obtain ⟨heffects, hnext⟩ := h.receive_held hheld hinbox bytes
        have harrived : c.arrivedIn k (.receive k bytes) = bytes := by
          simp [arrivedIn, hheld]
        rw [harrived, ← List.append_assoc]
        rw [heffects]
        rcases hscan : (scan (b ++ bytes)).2 with _ | left
        · -- a frame that cannot be read: the reader stops, and what follows does not matter
          have hstop : scan (b ++ bytes) = ((scan (b ++ bytes)).1, none) := Prod.ext rfl hscan
          have hsilent := hsound.effects_of_stopped (hnext.trans hscan) as
          rw [hsilent, List.append_nil, scan_append_of_stop hstop]
          exact (c.link k).brings_handleAll _
        · rw [scan_append hscan]
          exact ((c.link k).brings_handleAll _).append
            (ih hsound (hnext.trans hscan) (scan_left hscan))
      · have hnot : c.isHeld k = false := Bool.eq_false_iff.2 hheld
        have hstep : c.step (.receive k bytes) = (c, []) := receive_of_not_held hnot bytes
        have harrived : c.arrivedIn k (.receive k bytes) = [] := by
          simp [arrivedIn, hnot]
        rw [harrived, hstep, receive_of_not_held hnot]
        exact ih h hinbox hleft
    · have hnothing : c.arrivedIn k a = [] := by
        cases a <;> simp_all [Action.arrivesOn, arrivedIn]
      rw [effects, if_neg ha, arrived, hnothing, List.nil_append, List.nil_append]
      by_cases hcut : c.cutsOff k a = true
      · -- the other side hangs up
        obtain ⟨rfl, hk⟩ : a = .hangUp k ∧ k < c.links.length := by
          cases a <;> simp_all [cutsOff]
        have hstopped : (c.step (.hangUp k)).1.inbox k = none :=
          inbox_advance_ending hk hinbox none
        rw [if_pos hcut, List.append_nil, hleft, hsound.effects_of_stopped hstopped]
        exact .nil
      · rw [if_neg hcut]
        have hsame := h.inbox_step (Bool.eq_false_iff.2 ha) (Bool.eq_false_iff.2 hcut)
        exact ih hsound (hsame.trans hinbox) hleft

/-! ## More bytes -/

/-- **More bytes in one piece**: they do not matter, or their messages are heard after those that
were there without them. -/
theorem Sound.receive_append (h : c.Sound) (k : Nat) (bytes more : List UInt8) :
    c.receive k (bytes ++ more) = c.receive k bytes ∨
      ∃ ms ms' left left',
        c.receive k bytes =
          (c.after (ms.map (.heard k) ++ [.kept k left]), ((c.link k).handleAll ms).2) ∧
        c.receive k (bytes ++ more) =
          (c.after (ms.map (.heard k) ++ (ms'.map (.heard k) ++ [ending k left'])),
            ((c.link k).handleAll (ms ++ ms')).2) := by
  by_cases hheld : c.isHeld k = true
  · rcases hinbox : c.inbox k with _ | b
    · have hread := (inbox_eq_none_iff.1 hinbox).2
      refine .inl ?_
      rw [h.receive_of_not_reading hread, h.receive_of_not_reading hread]
    · obtain ⟨hread, rfl⟩ := (inbox_eq_some_iff (h.lt_of_isHeld hheld)).1 hinbox
      obtain ⟨left, hreads, ⟨-, hbad⟩ | ⟨hsome, hend⟩⟩ :=
        reads_of_scan ((c.link k).buffer ++ bytes)
      · exact .inl (receive_append_of_badStart hreads hbad more)
      · -- the incomplete frame goes on with the bytes behind it
        have hscan := scan_append hsome more
        have hshort := (h.receive_held hheld hinbox bytes).1
        have hlong := (h.receive_held hheld hinbox (bytes ++ more)).1
        rw [← List.append_assoc, hscan] at hlong
        refine .inr ⟨_, _, left, (scan (left ++ more)).2, Prod.ext ?_ hshort, Prod.ext ?_ hlong⟩
        · rw [h.receive_eq, (moments_receive hheld hread hreads).2 hend]
        · rw [h.receive_eq, moments_receive_of_reading hheld hread, ← List.append_assoc, hscan,
            List.map_append, List.append_assoc]
  · have hnot : c.isHeld k = false := Bool.eq_false_iff.2 hheld
    exact .inl ((receive_of_not_held hnot _).trans (receive_of_not_held hnot _).symm)

/-- More bytes change no effect of those in front of them. -/
theorem Sound.prefix_receive (h : c.Sound) (k : Nat) (bytes more : List UInt8) :
    (c.receive k bytes).2 <+: (c.receive k (bytes ++ more)).2 := by
  rcases h.receive_append k bytes more with hsame | ⟨ms, ms', left, left', hshort, hlong⟩
  · exact (congrArg Prod.snd hsame).symm ▸ List.prefix_rfl
  · rw [hshort, hlong, Link.handleAll_append]
    exact List.prefix_append _ _

/-- More bytes change no result that was there without them. -/
theorem Sound.result?_receive (h : c.Sound) {k id : Nat} {bytes : List UInt8} {r : Outcome Json}
    (hr : (c.receive k bytes).1.result? id = some r) (more : List UInt8) :
    (c.receive k (bytes ++ more)).1.result? id = some r := by
  rcases h.receive_append k bytes more with hsame | ⟨ms, ms', left, left', hshort, hlong⟩
  · rw [hsame]
    exact hr
  · rw [hshort, after_append] at hr
    rw [hlong, after_append]
    -- what is kept concerns no call
    exact (h.after _).result?_after hr _

/-! ## Messages without effect -/

/-- **A message that is neither an event nor a reply that somebody waits for** changes nothing. -/
theorem Sound.heard_silent (h : c.Sound) {m : Incoming} (hevent : m.event? = none)
    (hreply : ∀ id outcome, m = .reply (some id) outcome → ¬ c.WaitsOn id k) :
    c.advance (.heard k m) = c ∧ (c.link k).handle m = (c.link k, []) := by
  cases m with
  | notification method params =>
    constructor
    · show c.hear k (.notification method params) = c
      exact hear_other c k nofun
    · have hnone : eventOf? method params = none := hevent
      rw [Link.handle, hnone]
      rfl
  | reply id? outcome =>
    have hno : ∀ id, id? = some id → ¬ c.WaitsOn id k := by
      rintro id rfl
      exact hreply id outcome rfl
    refine ⟨h.advance_heard_of_not_waitsOn hno outcome, ?_⟩
    cases id? with
    | none => rfl
    | some id =>
      have hmem : id ∉ (c.link k).waiting := by
        rw [h.mem_waiting_iff]
        exact hno id rfl
      rw [Link.handle, if_neg hmem]

/-! ## The reader of a client -/

/-- Nothing has arrived before anything is opened. -/
theorem inbox_connected (address : String) (k : Nat) : (connected address).inbox k = some [] := by
  unfold inbox
  split
  · next hk =>
    obtain rfl : k = 0 := Nat.lt_one_iff.1 hk
    rfl
  · rfl

/-- **What a reader publishes**, in every run of a client and for every stream.  The events are
those of the messages in the bytes that arrive, in their order and once each, up to the first frame
that cannot be read or understood.  When a call is completed by a reply, the events in front of the
reply have been published.  A message that is neither an event nor a reply that somebody waits for
leaves the client as it is, open connections and waiting calls included.  More bytes, at any later
time or behind the last piece, take back no effect and no result. -/
theorem publications_of_stream (address : String) (as : List Action) (k : Nat) :
    let start := connected address
    let messages := understood (Frame.readAll (start.arrived k as)).1
    (start.effects k as).filterMap Effect.event? = messages.filterMap Incoming.event? ∧
    (∀ front id outcome back, start.effects k as = front ++ .complete id outcome :: back →
      ∃ before behind, messages = before ++ .reply (some id) outcome :: behind ∧
        front.filterMap Effect.event? = before.filterMap Incoming.event?) ∧
    (∀ before m behind, start.unroll as = before ++ .heard k m :: behind → m.event? = none →
      (∀ id outcome, m = .reply (some id) outcome → ¬ (start.after before).WaitsOn id k) →
      start.after (before ++ [.heard k m]) = start.after before ∧
        ((start.after before).link k).handle m = ((start.after before).link k, [])) ∧
    (∀ bytes more later,
      start.effects k (as ++ [.receive k bytes])
        <+: start.effects k (as ++ .receive k (bytes ++ more) :: later) ∧
      ∀ id r, (start.run (as ++ [.receive k bytes])).result? id = some r →
        (start.run (as ++ .receive k (bytes ++ more) :: later)).result? id = some r) := by
  intro start messages
  have hstart : start.Sound := sound_connected address
  have hrun := hstart.run as
  have hnothing : scan [] = ([], some []) := scan_of_done rfl
  have hbrings : Brings messages (start.effects k as) := by
    have h := hstart.brings_run (inbox_connected address k) hnothing as
    rwa [List.nil_append, scan_fst] at h
  refine ⟨hbrings.filterMap_event?, ?_, ?_, ?_⟩
  · intro front id outcome back heffects
    rw [heffects] at hbrings
    obtain ⟨before, behind, hmessages, hbefore⟩ := hbrings.split_of_complete
    exact ⟨before, behind, hmessages, hbefore.filterMap_event?⟩
  · intro before m behind _ hevent hreply
    rw [after_append]
    exact (hstart.after before).heard_silent hevent hreply
  · intro bytes more later
    constructor
    · rw [effects_append, effects_append, effects_receive, effects_receive, effects,
        List.append_nil]
      refine (List.prefix_append_right_inj _).2 ?_
      exact (hrun.prefix_receive k bytes more).trans (List.prefix_append _ _)
    · intro id r hr
      rw [run_append] at hr ⊢
      have hlong : ((start.run as).step (.receive k (bytes ++ more))).1.result? id = some r :=
        hrun.result?_receive hr more
      have hsound := hrun.step (.receive k (bytes ++ more))
      rw [run_cons, hsound.run_eq]
      exact hsound.result?_after hlong _

end Client

end AssetSearch.Wire
