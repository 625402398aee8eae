/-
# What the operations of a client leave behind

A client is seen through its connections, by number, and through its calls, by id.  Every operation
is described once by what it does to these two views, so that nothing later opens its definition.

Key statements: `link_setLink`, `call?_setPhase_self`, `call?_setPhase_of_ne`, `call?_loseCalls`,
`call?_begin`.
-/
import Mathlib.Data.List.GetD
import Mathlib.Tactic.Common
import AssetSearch.Wire.Client

namespace AssetSearch.Wire

namespace Call

/-- The call waits for a reply on a connection. -/
def isPending (call : Call) (k : Nat) : Bool :=
  match call.phase with
  | .registered j .pending | .sent j => j == k
  | _ => false

/-- A call waits on the connection that it uses. -/
theorem link?_of_isPending {call : Call} {k : Nat} (h : call.isPending k = true) :
    call.link? = some k := by
  unfold isPending at h
  split at h
  · next j hp => rw [link?, hp, beq_iff_eq.1 h]
  · next j hp => rw [link?, hp, beq_iff_eq.1 h]
  · cases h

end Call

namespace Client

variable (c : Client)

/-! ## Connections by number -/

/-- No connection has a number beyond the last. -/
theorem link_of_length_le {k : Nat} (h : c.links.length ≤ k) : c.link k = Link.fresh.shut := by
  rw [link, List.getD_eq_default _ _ h]

/-- A replaced connection, and the others. -/
theorem link_setLink {k : Nat} (hk : k < c.links.length) (l : Link) (j : Nat) :
    (c.setLink k l).link j = if j = k then l else c.link j := by
  simp only [link, setLink, List.getD_eq_getElem?_getD, List.getElem?_set]
  by_cases h : k = j
  · subst h
    simp [hk]
  · simp [h, Ne.symm h]

/-- A replaced connection stands at its number. -/
theorem link_setLink_self {k : Nat} (hk : k < c.links.length) (l : Link) :
    (c.setLink k l).link k = l := by
  rw [link_setLink c hk, if_pos rfl]

/-- Replacing a connection leaves the others as they are. -/
theorem link_setLink_of_ne {j k : Nat} (l : Link) (h : j ≠ k) :
    (c.setLink k l).link j = c.link j := by
  simp [link, setLink, List.getD_eq_getElem?_getD, Ne.symm h]

/-- A connection that does not exist cannot be replaced. -/
theorem setLink_of_length_le {k : Nat} (hk : c.links.length ≤ k) (l : Link) :
    c.setLink k l = c := by
  rw [setLink, List.set_eq_of_length_le hk]

/-- Replacing a connection by itself changes nothing. -/
theorem setLink_link (k : Nat) : c.setLink k (c.link k) = c := by
  have h : c.links.set k (c.link k) = c.links := by
    by_cases hk : k < c.links.length
    · rw [link, List.getD_eq_getElem _ _ hk, List.set_getElem_self]
    · exact List.set_eq_of_length_le (Nat.le_of_not_lt hk)
  rw [setLink, h]

/-- Only the last replacement of a connection counts. -/
theorem setLink_setLink (k : Nat) (l l' : Link) :
    (c.setLink k l).setLink k l' = c.setLink k l' := by
  rw [setLink, setLink, setLink, List.set_set]

/-- A new connection stands behind the others. -/
theorem link_openLink (j : Nat) :
    c.openLink.link j = if j = c.links.length then .fresh else c.link j := by
  simp only [link, openLink, List.getD_eq_getElem?_getD]
  rcases Nat.lt_trichotomy j c.links.length with h | h | h
  · rw [List.getElem?_append_left h, if_neg (by omega)]
  · simp [h]
  · rw [List.getElem?_eq_none (by simp; omega), List.getElem?_eq_none (by omega), if_neg (by omega)]

@[simp] theorem link_setPhase (id : Nat) (f : Call → Phase) (k : Nat) :
    (c.setPhase id f).link k = c.link k := rfl

@[simp] theorem link_loseCalls (j k : Nat) : (c.loseCalls j).link k = c.link k := rfl

@[simp] theorem link_begin (method : String) (params : Json) (k : Nat) :
    (c.begin method params).2.link k = c.link k := rfl

@[simp] theorem length_links_setLink (k : Nat) (l : Link) :
    (c.setLink k l).links.length = c.links.length := List.length_set

@[simp] theorem length_links_setPhase (id : Nat) (f : Call → Phase) :
    (c.setPhase id f).links.length = c.links.length := rfl

@[simp] theorem length_links_loseCalls (k : Nat) :
    (c.loseCalls k).links.length = c.links.length := rfl

@[simp] theorem length_links_openLink : c.openLink.links.length = c.links.length + 1 := by
  simp [openLink]

/-! ## Calls by id -/

variable {c}

/-- A call is found under its own id. -/
theorem id_of_call? {id : Nat} {call : Call} (h : c.call? id = some call) : call.id = id := by
  simpa using List.find?_some h

variable (c)

/-- Looking up a call after a change that keeps the ids of all calls. -/
theorem find?_map_calls (calls : List Call) (f : Call → Call) (hf : ∀ call, (f call).id = call.id)
    (id : Nat) :
    (calls.map f).find? (fun call => decide (call.id = id))
      = (calls.find? fun call => decide (call.id = id)).map f := by
  rw [List.find?_map]
  congr 2
  funext call
  simp [hf]

@[simp] theorem call?_setLink (k : Nat) (l : Link) (id : Nat) :
    (c.setLink k l).call? id = c.call? id := rfl

@[simp] theorem call?_openLink (id : Nat) : c.openLink.call? id = c.call? id := rfl

/-- A changed call. -/
theorem call?_setPhase_self (id : Nat) (f : Call → Phase) :
    (c.setPhase id f).call? id = (c.call? id).map fun call => { call with phase := f call } := by
  rw [call?, setPhase, find?_map_calls _ _ (fun call => by split <;> rfl), ← call?]
  cases h : c.call? id with
  | none => rfl
  | some call => simp [id_of_call? h]

/-- Changing a call leaves those with other ids as they are. -/
theorem call?_setPhase_of_ne {j id : Nat} (f : Call → Phase) (h : j ≠ id) :
    (c.setPhase id f).call? j = c.call? j := by
  rw [call?, setPhase, find?_map_calls _ _ (fun call => by split <;> rfl), ← call?]
  cases hj : c.call? j with
  | none => rfl
  | some call => simp [id_of_call? hj, h]

/-- A call after the loss of a connection. -/
theorem call?_loseCalls (k id : Nat) :
    (c.loseCalls k).call? id =
      (c.call? id).map fun call => { call with phase := call.onLoss k c.lost } := by
  exact find?_map_calls c.calls (fun call => { call with phase := call.onLoss k c.lost })
    (fun _ => rfl) id

/-- A call that does not wait on a connection is not touched by a reply there. -/
theorem onReply_of_not_isPending {call : Call} {k : Nat} (outcome : ReplyOutcome)
    (h : call.isPending k = false) : call.onReply k outcome = call.phase := by
  obtain ⟨id, method, request, phase⟩ := call
  simp only [Call.isPending, Call.onReply] at h ⊢
  grind

/-- A call waits no more once its reply has arrived. -/
theorem isPending_onReply (call : Call) (k : Nat) (outcome : ReplyOutcome) :
    { call with phase := call.onReply k outcome }.isPending k = false := by
  obtain ⟨id, method, request, phase⟩ := call
  simp only [Call.isPending, Call.onReply]
  grind

/-- A reply gives no call a connection. -/
theorem link?_onReply {call : Call} {j k : Nat} {outcome : ReplyOutcome}
    (h : { call with phase := call.onReply k outcome }.link? = some j) : call.link? = some j := by
  obtain ⟨id, method, request, phase⟩ := call
  simp only [Call.link?, Call.onReply] at h ⊢
  grind

/-- After the loss of a connection no call waits on it, and all others wait as before. -/
theorem isPending_onLoss (failure : Failure) (call : Call) (j k : Nat) :
    { call with phase := call.onLoss k failure }.isPending j
      = (call.isPending j && j != k) := by
  obtain ⟨id, method, request, phase⟩ := call
  rcases phase with _ | i | ⟨i, mail⟩ | i | r | _
  case registered =>
    cases mail with
    | pending =>
      by_cases hik : i = k
      · subst hik
        by_cases hij : i = j <;> simp [Call.isPending, Call.onLoss, hij]
      · by_cases hij : i = j <;> simp_all [Call.isPending, Call.onLoss]
    | reply outcome => simp [Call.isPending, Call.onLoss]
    | lost => simp [Call.isPending, Call.onLoss]
  case sent =>
    by_cases hik : i = k
    · subst hik
      by_cases hij : i = j <;> simp [Call.isPending, Call.onLoss, hij]
    · by_cases hij : i = j <;> simp_all [Call.isPending, Call.onLoss]
  all_goals simp [Call.isPending, Call.onLoss]

/-- The loss of a connection gives no call a connection. -/
theorem link?_onLoss {failure : Failure} {call : Call} {j k : Nat}
    (h : { call with phase := call.onLoss k failure }.link? = some j) :
    call.link? = some j := by
  obtain ⟨id, method, request, phase⟩ := call
  simp only [Call.link?, Call.onLoss] at h ⊢
  grind

/-- A call that does not wait on a connection is not touched by its loss. -/
theorem onLoss_of_not_isPending {call : Call} {k : Nat} (failure : Failure)
    (h : call.isPending k = false) : call.onLoss k failure = call.phase := by
  obtain ⟨id, method, request, phase⟩ := call
  simp only [Call.isPending, Call.onLoss] at h ⊢
  grind

/-- Changing a call changes nothing of the calls but their phases. -/
theorem map_calls_setPhase {α : Type} {g : Call → α}
    (hg : ∀ call p, g { call with phase := p } = g call) (id : Nat) (f : Call → Phase) :
    (c.setPhase id f).calls.map g = c.calls.map g := by
  rw [setPhase, List.map_map]
  apply List.map_congr_left
  intro call _
  simp only [Function.comp]
  split
  · exact hg call (f call)
  · rfl

/-- The loss of a connection changes nothing of the calls but their phases. -/
theorem map_calls_loseCalls {α : Type} {g : Call → α}
    (hg : ∀ call p, g { call with phase := p } = g call) (k : Nat) :
    (c.loseCalls k).calls.map g = c.calls.map g := by
  rw [loseCalls, List.map_map]
  apply List.map_congr_left
  intro call _
  exact hg call (call.onLoss k c.lost)

@[simp] theorem length_calls_setPhase (id : Nat) (f : Call → Phase) :
    (c.setPhase id f).calls.length = c.calls.length := List.length_map _

@[simp] theorem length_calls_loseCalls (k : Nat) :
    (c.loseCalls k).calls.length = c.calls.length := List.length_map _

/-- The request of the call that starts next. -/
def nextRequest (method : String) (params : Json) : List UInt8 :=
  (Request.call method params c.nextId).toJson.bytes

/-- The call that starts next. -/
def newCall (method : String) (params : Json) : Call where
  id := c.nextId
  method := method
  request := c.nextRequest method params
  phase := .ofRequest (c.nextRequest method params)

@[simp] theorem request_newCall (method : String) (params : Json) :
    (c.newCall method params).request = c.nextRequest method params := by
  simp only [newCall]

/-- Starting a call adds it behind the others. -/
theorem begin_eq (method : String) (params : Json) :
    (c.begin method params).2
      = { c with nextId := c.nextId + 1, calls := c.calls ++ [c.newCall method params] } := rfl

/-- A call after another one has started. -/
theorem call?_begin (h : c.call? c.nextId = none) (method : String) (params : Json) (id : Nat) :
    (c.begin method params).2.call? id =
      if id = c.nextId then some (c.newCall method params) else c.call? id := by
  have hnew : (c.newCall method params).id = c.nextId := rfl
  rw [begin_eq, call?, List.find?_append]
  by_cases hid : id = c.nextId
  · subst hid
    rw [call?] at h
    simp [h, hnew]
  · rw [if_neg hid, ← call?, List.find?_singleton, if_neg (by simp [hnew, Ne.symm hid]),
      Option.or_none]

/-- A call starts if its request is not too long, and has failed otherwise. -/
theorem phase_newCall (method : String) (params : Json) :
    (c.newCall method params).phase =
      if (c.nextRequest method params).length ≤ Frame.maxLength then .started
      else .done (.error (Frame.tooLong (c.nextRequest method params).length)) := by
  simp only [newCall, Phase.ofRequest, Frame.checkLength]
  by_cases h : (c.nextRequest method params).length ≤ Frame.maxLength
  · simp [h, Nat.not_lt.2 h]
  · simp [h, Nat.lt_of_not_le h]

/-- The call that starts next has no connection. -/
theorem link?_newCall (method : String) (params : Json) :
    (c.newCall method params).link? = none := by
  by_cases h : (c.nextRequest method params).length ≤ Frame.maxLength <;>
    simp [Call.link?, phase_newCall, h]

/-- The call that starts next waits nowhere. -/
theorem isPending_newCall (method : String) (params : Json) (k : Nat) :
    (c.newCall method params).isPending k = false := by
  rw [Bool.eq_false_iff]
  intro h
  have hlink := Call.link?_of_isPending h
  rw [link?_newCall] at hlink
  cases hlink

end Client

end AssetSearch.Wire
