/-
# The life of a call

What every moment does to a single call.  Until a call waits on a connection, the state of the
client matters to it; from then on only its own moments do, the replies with its id on its
connection, and the closing of that connection.

Key definitions: `Call.turn`, `Client.react`, `Client.touches`.  Key statements:
`Sound.call?_advance`, `Sound.call?_after_filter`.
-/
import AssetSearch.Proofs.Wire.Sound

namespace AssetSearch.Wire

/-! ## One call -/

namespace Call

/-- How far the call is once its request could not be written. -/
def onFailure (call : Call) (failure : Failure) : Phase :=
  match call.phase with
  | .registered _ _ => .done (.error failure)
  | p => p

/-- How far the call is once it was given up. -/
def onDrop (call : Call) : Phase :=
  match call.phase with
  | .done r => .done r
  | _ => .abandoned

/-- How far the call is after a moment, as far as that does not depend on the client. -/
def turn (call : Call) (failure : Failure) : Client.Moment → Phase
  | .sent id => if call.id = id then call.onWritten failure else call.phase
  | .failed id => if call.id = id then call.onFailure failure else call.phase
  | .dropped id => if call.id = id then call.onDrop else call.phase
  | .heard k (.reply (some id) outcome) =>
    if call.id = id then call.onReply k outcome else call.phase
  | .closed k | .stopped k => call.onLoss k failure
  | _ => call.phase

/-- The call waits on a connection or has done so, or it has ended. -/
def isUnderway (call : Call) : Bool :=
  match call.phase with
  | .started | .acquired _ => false
  | _ => true

end Call

namespace Client

/-- How far a call is once it has asked for a connection. -/
def onAcquire (c : Client) (call : Call) (dial : Dial) : Phase :=
  match call.phase with
  | .started =>
    if (c.link c.current).closed then
      match dial.failure? c.address with
      | none => .acquired c.links.length
      | some failure => .done (.error failure)
    else .acquired c.current
  | p => p

/-- How far a call is once it has asked to wait on its connection. -/
def onRegister (c : Client) (call : Call) : Phase :=
  match call.phase with
  | .acquired k => if (c.link k).closed then .done (.error c.lost) else .registered k .pending
  | p => p

/-- How far a call is after a moment. -/
def react (c : Client) (call : Call) : Moment → Phase
  | .acquired id dial => if call.id = id then c.onAcquire call dial else call.phase
  | .registered id => if call.id = id then c.onRegister call else call.phase
  | m => call.turn c.lost m

/-! ## All calls -/

variable {c : Client} {id : Nat} {call : Call}

/-- A call that asks for a connection. -/
theorem call?_acquire_self (hcall : c.call? id = some call) (dial : Dial) :
    (c.acquire id dial).call? id = some { call with phase := c.onAcquire call dial } := by
  obtain ⟨i, method, request, phase⟩ := call
  cases phase with
  | started =>
    simp only [acquire, hcall, onAcquire]
    by_cases hc : (c.link c.current).closed = true
    · rw [if_pos hc, if_pos hc]
      cases dial.failure? c.address with
      | none => simp only [call?_setPhase_self, call?_openLink, hcall, Option.map_some]
      | some failure => simp only [call?_setPhase_self, hcall, Option.map_some]
    · rw [if_neg hc, if_neg hc, call?_setPhase_self, hcall, Option.map_some]
  | _ =>
    simp only [acquire, hcall]
    rfl

theorem call?_acquire_of_ne {j : Nat} (h : id ≠ j) (dial : Dial) :
    (c.acquire j dial).call? id = c.call? id := by
  unfold acquire
  split
  · split
    · split <;> exact call?_setPhase_of_ne _ _ h
    · exact call?_setPhase_of_ne _ _ h
  · rfl

/-- A call that asks to wait on its connection. -/
theorem call?_register_self (hcall : c.call? id = some call) :
    (c.register id).call? id = some { call with phase := c.onRegister call } := by
  obtain ⟨i, method, request, phase⟩ := call
  cases phase with
  | acquired k =>
    simp only [register, hcall, onRegister, Link.register]
    by_cases hc : (c.link k).closed = true
    · rw [if_pos hc, if_pos hc, call?_setPhase_self, hcall, Option.map_some]
    · rw [if_neg hc, if_neg hc, call?_setPhase_self, call?_setLink, hcall, Option.map_some]
  | _ =>
    simp only [register, hcall]
    rfl

theorem call?_register_of_ne {j : Nat} (h : id ≠ j) : (c.register j).call? id = c.call? id := by
  unfold register
  split
  · split <;> exact call?_setPhase_of_ne _ _ h
  · rfl

/-- A call whose request is written. -/
theorem call?_write_self (hcall : c.call? id = some call) :
    (c.write id true).call? id = some { call with phase := call.onWritten c.lost } := by
  obtain ⟨i, method, request, phase⟩ := call
  cases phase with
  | registered k mail =>
    simp only [write, hcall, if_true]
    rw [call?_setPhase_self, hcall, Option.map_some]
  | _ =>
    simp only [write, hcall]
    rfl

theorem call?_write_of_ne {j : Nat} (h : id ≠ j) : (c.write j true).call? id = c.call? id := by
  unfold write
  split
  · rw [if_pos rfl, call?_setPhase_of_ne _ _ h]
  · rfl

/-- A call whose request cannot be written. -/
theorem call?_fail_self (hcall : c.call? id = some call) :
    (c.fail id).call? id = some { call with phase := call.onFailure c.lost } := by
  obtain ⟨i, method, request, phase⟩ := call
  cases phase with
  | registered k mail =>
    simp only [fail, hcall]
    rw [call?_setLink, call?_setPhase_self, hcall, Option.map_some]
    rfl
  | _ =>
    simp only [fail, hcall]
    rfl

theorem call?_fail_of_ne {j : Nat} (h : id ≠ j) : (c.fail j).call? id = c.call? id := by
  unfold fail
  split
  · rw [call?_setLink, call?_setPhase_of_ne _ _ h]
  · rfl

/-- A call that is given up. -/
theorem call?_abandon_self (hcall : c.call? id = some call) :
    (c.abandon id false).call? id = some { call with phase := call.onDrop } := by
  obtain ⟨i, method, request, phase⟩ := call
  cases phase with
  | registered k mail =>
    simp only [abandon, hcall, Bool.false_eq_true, if_false]
    rw [call?_setLink, call?_setPhase_self, hcall, Option.map_some]
    rfl
  | sent k =>
    simp only [abandon, hcall]
    rw [call?_setLink, call?_setPhase_self, hcall, Option.map_some]
    rfl
  | done r =>
    simp only [abandon, hcall]
    rfl
  | abandoned =>
    simp only [abandon, hcall]
    rfl
  | _ =>
    simp only [abandon, hcall]
    rw [call?_setPhase_self, hcall, Option.map_some]
    rfl

theorem call?_abandon_of_ne {j : Nat} (h : id ≠ j) :
    (c.abandon j false).call? id = c.call? id := by
  unfold abandon
  split
  · rfl
  · split <;> simp only [Bool.false_eq_true, if_false, call?_setLink, call?_setPhase_of_ne _ _ h]

/-- A reply changes the call with its id as the phase of that call says. -/
theorem Sound.call?_hear_self (h : c.Sound) (hcall : c.call? id = some call) (k : Nat)
    (outcome : ReplyOutcome) :
    (c.hear k (.reply (some id) outcome)).call? id
      = some { call with phase := call.onReply k outcome } := by
  rw [hear_reply]
  split
  · rw [call?_setLink, call?_setPhase_self, hcall, Option.map_some]
  · next hmem =>
    have hp : call.isPending k = false := by
      rw [Bool.eq_false_iff]
      intro hp
      exact hmem ((h.mem_waiting_iff k id).2 ⟨call, hcall, hp⟩)
    rw [hcall, onReply_of_not_isPending outcome hp]

theorem call?_hear_of_ne {j k : Nat} {outcome : ReplyOutcome} (h : id ≠ j) :
    (c.hear k (.reply (some j) outcome)).call? id = c.call? id := by
  rw [hear_reply]
  split
  · rw [call?_setLink, call?_setPhase_of_ne _ _ h]
  · rfl

/-- A call after a change that concerns the call with one id only. -/
theorem call?_of_self_or_other {c' : Client} {j : Nat} {p : Phase} (hcall : c.call? id = some call)
    (hself : id = j → c'.call? id = some { call with phase := p })
    (hother : id ≠ j → c'.call? id = c.call? id) :
    c'.call? id = some { call with phase := if call.id = j then p else call.phase } := by
  have hid := id_of_call? hcall
  by_cases hj : id = j
  · rw [if_pos (hid.trans hj), hself hj]
  · rw [if_neg (by rwa [hid]), hother hj, hcall]

/-- **Every moment changes every call as its phase says.** -/
theorem Sound.call?_advance (h : c.Sound) (hcall : c.call? id = some call) (m : Moment) :
    (c.advance m).call? id = some { call with phase := c.react call m } := by
  cases m with
  | begun method params =>
    -- the new call has an id of its own
    have hne : id ≠ c.nextId := by
      intro he
      rw [he, h.call?_of_le (Nat.le_refl _)] at hcall
      cases hcall
    show (c.begin method params).2.call? id = _
    rw [call?_begin c (h.call?_of_le (Nat.le_refl _)), if_neg hne]
    exact hcall
  | acquired j dial =>
    refine call?_of_self_or_other hcall ?_ fun hj => call?_acquire_of_ne hj dial
    rintro rfl
    exact call?_acquire_self hcall dial
  | registered j =>
    refine call?_of_self_or_other hcall ?_ call?_register_of_ne
    rintro rfl
    exact call?_register_self hcall
  | sent j =>
    refine call?_of_self_or_other hcall ?_ call?_write_of_ne
    rintro rfl
    exact call?_write_self hcall
  | failed j =>
    refine call?_of_self_or_other hcall ?_ call?_fail_of_ne
    rintro rfl
    exact call?_fail_self hcall
  | dropped j =>
    refine call?_of_self_or_other hcall ?_ call?_abandon_of_ne
    rintro rfl
    exact call?_abandon_self hcall
  | heard k m =>
    cases m with
    | notification method params =>
      show (c.hear k _).call? id = _
      rw [hear_other c k (by intro i outcome hm; cases hm)]
      exact hcall
    | reply j outcome =>
      cases j with
      | none =>
        show (c.hear k _).call? id = _
        rw [hear_other c k (by intro i outcome hm; cases hm)]
        exact hcall
      | some j =>
        refine call?_of_self_or_other hcall ?_ call?_hear_of_ne
        rintro rfl
        exact h.call?_hear_self hcall k outcome
  | kept k bytes => exact hcall
  | closed k =>
    show ((c.setLink k _).loseCalls k).call? id = _
    rw [call?_loseCalls, call?_setLink, hcall]
    rfl
  | stopped k =>
    show ((c.setLink k _).loseCalls k).call? id = _
    rw [call?_loseCalls, call?_setLink, hcall]
    rfl

/-! ## What never changes of a call -/

/-- The label of a call: its id, its method and its request. -/
def label (call : Call) : Nat × String × List UInt8 :=
  (call.id, call.method, call.request)

@[simp] theorem map_label_setPhase (id : Nat) (f : Call → Phase) :
    (c.setPhase id f).calls.map label = c.calls.map label :=
  map_calls_setPhase c (fun _ _ => rfl) id f

@[simp] theorem map_label_loseCalls (k : Nat) :
    (c.loseCalls k).calls.map label = c.calls.map label :=
  map_calls_loseCalls c (fun _ _ => rfl) k

@[simp] theorem calls_setLink (k : Nat) (l : Link) : (c.setLink k l).calls = c.calls := rfl

@[simp] theorem calls_openLink : c.openLink.calls = c.calls := rfl

/-- The labels of the calls that start at a moment. -/
def newLabels (c : Client) : Moment → List (Nat × String × List UInt8)
  | .begun method params => [label (c.newCall method params)]
  | _ => []

theorem newLabels_eq_nil {m : Moment} (h : m.starts = false) : c.newLabels m = [] := by
  cases m with
  | begun method params => cases h
  | _ => rfl

/-- Calls are added behind the others, and keep their labels. -/
theorem map_label_advance (c : Client) (m : Moment) :
    (c.advance m).calls.map label = c.calls.map label ++ c.newLabels m := by
  have h := change_advance c m
  generalize c.advance m = c' at h
  cases h with
  | begun method params =>
    rw [begin_eq]
    exact List.map_append
  | same _ h => rw [newLabels_eq_nil h, List.append_nil]
  | moved _ h id f => rw [newLabels_eq_nil h, List.append_nil, map_label_setPhase]
  | opened id dial f =>
    rw [newLabels_eq_nil rfl, List.append_nil, map_label_setPhase, calls_openLink]
  | listed _ h id f k l =>
    rw [newLabels_eq_nil h, List.append_nil, calls_setLink, map_label_setPhase]
  | kept k bytes => rw [newLabels_eq_nil rfl, List.append_nil, calls_setLink]
  | closed k => rw [newLabels_eq_nil rfl, List.append_nil, map_label_loseCalls, calls_setLink]
  | stopped k => rw [newLabels_eq_nil rfl, List.append_nil, map_label_loseCalls, calls_setLink]

/-- A call that does not exist has no label. -/
theorem call?_eq_none_iff : c.call? id = none ↔ ∀ x ∈ c.calls.map label, x.1 ≠ id := by
  rw [call?, List.find?_eq_none]
  simp [label]

/-- A call that does not exist yet can only come to be by starting. -/
theorem Sound.call?_advance_of_none (h : c.Sound) (hnone : c.call? id = none) (m : Moment) :
    (c.advance m).call? id = none ∨ ∃ method params,
      m = .begun method params ∧ (c.advance m).call? id = some (c.newCall method params) := by
  by_cases hm : c.newLabels m = []
  · left
    rw [call?_eq_none_iff, map_label_advance, hm, List.append_nil]
    exact call?_eq_none_iff.1 hnone
  · cases m with
    | begun method params =>
      have hcall : (c.advance (.begun method params)).call? id = _ :=
        call?_begin c (h.call?_of_le (Nat.le_refl _)) method params id
      by_cases hid : id = c.nextId
      · rw [if_pos hid] at hcall
        exact .inr ⟨method, params, rfl, hcall⟩
      · rw [if_neg hid] at hcall
        exact .inl (hcall.trans hnone)
    | _ => exact absurd rfl hm

/-! ## Waiting and results -/

/-- The call with an id waits on a connection. -/
def WaitsOn (c : Client) (id k : Nat) : Prop :=
  ∃ call, c.call? id = some call ∧ call.isPending k = true

/-- A result stands in its call. -/
theorem call?_of_result? {r : Outcome Json} {id : Nat} (h : c.result? id = some r) :
    ∃ call, c.call? id = some call ∧ call.phase = .done r := by
  unfold result? at h
  split at h
  · next hcall => exact ⟨_, hcall, congrArg Phase.done (Option.some.inj h)⟩
  · cases h

theorem result?_of_call? {r : Outcome Json} (hcall : c.call? id = some call)
    (hdone : call.phase = .done r) : c.result? id = some r := by
  obtain ⟨i, method, request, phase⟩ := call
  obtain rfl : phase = .done r := hdone
  rw [result?, hcall]

/-- A call that has returned stays as it is. -/
theorem react_of_done {r : Outcome Json} (h : call.phase = .done r) (m : Moment) :
    c.react call m = .done r := by
  obtain ⟨i, method, request, phase⟩ := call
  simp only [react, onAcquire, onRegister, Call.turn, Call.onWritten, Call.onFailure, Call.onDrop,
    Call.onReply, Call.onLoss] at h ⊢
  grind

/-- **Results are final.** -/
theorem Sound.result?_after (h : c.Sound) {r : Outcome Json} (hr : c.result? id = some r)
    (ms : List Moment) : (c.after ms).result? id = some r := by
  induction ms generalizing c with
  | nil => exact hr
  | cons m ms ih =>
    refine ih (h.advance m) ?_
    obtain ⟨call, hcall, hdone⟩ := call?_of_result? hr
    rw [result?, h.call?_advance hcall m, react_of_done hdone]

/-- A call that was given up stays so. -/
theorem react_of_abandoned (h : call.phase = .abandoned) (m : Moment) :
    c.react call m = .abandoned := by
  obtain ⟨i, method, request, phase⟩ := call
  simp only [react, onAcquire, onRegister, Call.turn, Call.onWritten, Call.onFailure, Call.onDrop,
    Call.onReply, Call.onLoss] at h ⊢
  grind

/-! ## What matters to a call -/

/-- The moments that matter to a call with a given id once it waits on a connection. -/
def touches (id k : Nat) : Moment → Bool
  | .sent j | .failed j | .dropped j => j == id
  | .heard j (.reply (some i) _) => i == id && j == k
  | .closed j | .stopped j => j == k
  | _ => false

end Client

namespace Call

open Client

variable {call : Call} {k : Nat}

/-- A call that waits is underway. -/
theorem isUnderway_of_isPending (h : call.isPending k = true) : call.isUnderway = true := by
  obtain ⟨id, method, request, phase⟩ := call
  cases phase <;> first | rfl | cases h

/-- Other moments leave the call as it is. -/
theorem turn_of_not_touches (failure : Failure) {m : Moment}
    (hlink : ∀ j, call.link? = some j → j = k) (hm : touches call.id k m = false) :
    call.turn failure m = call.phase := by
  have hpending : ∀ j, j ≠ k → call.isPending j = false := by
    intro j hj
    rw [Bool.eq_false_iff]
    intro hp
    exact hj (hlink j (link?_of_isPending hp))
  cases m with
  | sent j => rw [turn, if_neg (by rintro rfl; simp [touches] at hm)]
  | failed j => rw [turn, if_neg (by rintro rfl; simp [touches] at hm)]
  | dropped j => rw [turn, if_neg (by rintro rfl; simp [touches] at hm)]
  | heard j m =>
    cases m with
    | notification method params => rfl
    | reply i outcome =>
      cases i with
      | none => rfl
      | some i =>
        by_cases hi : call.id = i
        · rw [turn, if_pos hi]
          refine onReply_of_not_isPending outcome (hpending j ?_)
          simpa [touches, hi] using hm
        · rw [turn, if_neg hi]
  | closed j => exact onLoss_of_not_isPending failure (hpending j (by simpa [touches] using hm))
  | stopped j => exact onLoss_of_not_isPending failure (hpending j (by simpa [touches] using hm))
  | _ => rfl

/-- A call underway stays underway, and does not change its connection. -/
theorem isUnderway_turn (failure : Failure) (m : Moment) (h : call.isUnderway = true) :
    { call with phase := call.turn failure m }.isUnderway = true ∧
      ∀ j, { call with phase := call.turn failure m }.link? = some j → call.link? = some j := by
  obtain ⟨id, method, request, phase⟩ := call
  simp only [isUnderway, link?, turn, onWritten, onFailure, onDrop, onReply, onLoss] at h ⊢
  grind

end Call

namespace Client

variable {c : Client} {id k : Nat} {call : Call}

/-- The client does not matter any more to a call underway. -/
theorem react_of_isUnderway (h : call.isUnderway = true) (m : Moment) :
    c.react call m = call.turn c.lost m := by
  cases m with
  | acquired j dial =>
    have hphase : c.onAcquire call dial = call.phase := by
      unfold onAcquire
      split
      · next hp => simp [Call.isUnderway, hp] at h
      · rfl
    rw [react, hphase, ite_self]
    rfl
  | registered j =>
    have hphase : c.onRegister call = call.phase := by
      unfold onRegister
      split
      · next hp => simp [Call.isUnderway, hp] at h
      · rfl
    rw [react, hphase, ite_self]
    rfl
  | _ => rfl

/-- **Only the moments that touch a call matter to it.**  Once a call waits on a connection, the
phase that it reaches is the fold of those moments alone. -/
theorem Sound.call?_after_filter (h : c.Sound) (hcall : c.call? id = some call)
    (hunder : call.isUnderway = true) (hlink : ∀ j, call.link? = some j → j = k)
    (ms : List Moment) :
    (c.after ms).call? id = some ((ms.filter (touches id k)).foldl
      (fun call m => { call with phase := call.turn c.lost m }) call) := by
  have hid := id_of_call? hcall
  induction ms generalizing c call with
  | nil => exact hcall
  | cons m ms ih =>
    have hreact : c.react call m = call.turn c.lost m := react_of_isUnderway hunder m
    have hlost : (c.advance m).lost = c.lost := lost_advance c m
    have hnext := h.call?_advance hcall m
    rw [hreact] at hnext
    have hstay := Call.isUnderway_turn c.lost m hunder
    rw [after_cons, ih (h.advance m) hnext hstay.1 (fun j hj => hlink j (hstay.2 j hj)) hid, hlost]
    by_cases hm : touches id k m = true
    · rw [List.filter_cons_of_pos hm, List.foldl_cons]
    · rw [List.filter_cons_of_neg hm]
      have hsame := Call.turn_of_not_touches c.lost hlink
        (hid ▸ Bool.eq_false_iff.2 hm)
      rw [hsame]

end Client

end AssetSearch.Wire
