/-
# Who receives what

As long as no handler publishes, each publication calls just the subscriptions that it concerns and
that are live when it starts, once each and in the order in which they were made, and says how many
they were.  So a subscription receives the events that concern it and are published between its
start and its end, in the order of their publication, and nothing else.

Key definitions: `Desk.live`, `Desk.published`, `Desk.Serves`.  Key statements: `Calm.listeners_eq`,
`Calm.serves`, `Calm.received_eq`, `deliveries_of_history`.
-/
import Mathlib.Data.List.Nodup
import AssetSearch.Proofs.Progress.Disposal

namespace AssetSearch.Progress

variable {H : Type}

/-- An event concerns a listener if that listens to all events or to those of its task. -/
def Listener.Concerns (e : Event) (l : Listener H) : Prop :=
  l.taskFilter = none ∨ l.taskFilter = some e.taskId

instance (e : Event) (l : Listener H) : Decidable (l.Concerns e) :=
  inferInstanceAs (Decidable (_ ∨ _))

theorem Listener.wants_eq (l : Listener H) (e : Event) : l.wants e = decide (l.Concerns e) := by
  obtain ⟨id, taskFilter, handler⟩ := l
  cases taskFilter with
  | none => rfl
  | some task =>
    rw [Bool.eq_iff_iff]
    simp [wants, Concerns]

namespace Desk

variable {d d' : Desk H} {h : List (Entry H)}

/-! ## What a history says about subscriptions -/

namespace Entry

/-- The subscription that was made in a step. -/
def made? (x : Entry H) : Option (Listener H) :=
  match x.action, x.trace with
  | .subscribe taskFilter handler, .subscribed id => some ⟨id, taskFilter, handler⟩
  | _, _ => none

/-- Whether a subscription was ended in a step. -/
def ends (id : Nat) (x : Entry H) : Bool :=
  match x.action with
  | .dispose other => other == id
  | _ => false

/-- The event that a listener should get from a step. -/
def eventFor? (l : Listener H) (x : Entry H) : Option Event :=
  match x.action with
  | .publish e => if l.Concerns e then some e else none
  | _ => none

end Entry

/-- No step of a history ends the subscription. -/
def outlasts (h : List (Entry H)) (l : Listener H) : Bool :=
  !h.any (Entry.ends l.id)

/-- The subscriptions that are made in a history and not ended after that, in the order in which
they are made. -/
def live : List (Entry H) → List (Listener H)
  | [] => []
  | x :: h => (x.made?.toList.filter (outlasts h)) ++ live h

/-- The events published in a history that concern a listener, up to the end of its subscription. -/
def published (l : Listener H) (h : List (Entry H)) : List Event :=
  (h.takeWhile fun x => !x.ends l.id).filterMap (Entry.eventFor? l)

theorem outlasts_cons (x : Entry H) (h : List (Entry H)) (l : Listener H) :
    outlasts (x :: h) l = (!x.ends l.id && outlasts h l) := by
  rw [outlasts, List.any_cons, Bool.not_or]
  rfl

/-- **The listeners of the bus are the live subscriptions**, behind those that were there before. -/
theorem Calm.listeners_eq (hcalm : Calm d h d') :
    d'.bus.listeners = d.bus.listeners.filter (outlasts h) ++ live h := by
  induction hcalm with
  | refl d =>
    have hall : d.bus.listeners.filter (outlasts []) = d.bus.listeners :=
      List.filter_eq_self.2 fun _ _ => rfl
    rw [hall]
    exact (List.append_nil _).symm
  | @step d d₁ d' a t h hmild hstep hrest ih =>
    have hmove := moves_of_step? hstep
    rw [ih]
    cases hmove with
    | subscribe d taskFilter handler =>
      show (d.bus.listeners ++ [_]).filter (outlasts h) ++ live h
        = d.bus.listeners.filter (outlasts h) ++ ([_].filter (outlasts h) ++ live h)
      rw [List.filter_append, List.append_assoc]
    | dispose d id =>
      show (d.bus.listeners.filter _).filter (outlasts h) ++ live h = _ ++ live h
      rw [List.filter_filter]
      congr 1
      refine List.filter_congr ?_
      intro l _
      rw [outlasts_cons, Bool.and_comm]
      by_cases hid : l.id = id
      · simp [Entry.ends, hid]
      · simp [Entry.ends, hid, Ne.symm hid]
    | publish d e => rfl
    | deliver bus e l waiting total rest => rfl
    | finish bus e total rest => rfl

/-! ## One publication -/

/-- What follows the start of a publication to some listeners, when the history ends at a desk and a
number is to be returned. -/
inductive Serves (e : Event) (ls : List (Listener H)) (total : Nat) (h : List (Entry H))
    (d : Desk H) : Prop where
  /-- All of them have been called, and the number was returned. -/
  | ended (front back : List (Entry H)) (split : h = front ++ ⟨.finish, .returned total⟩ :: back)
      (notBefore : ∀ n, .returned n ∉ traces front)
      (called : calls (traces front) = ls.map fun l => (l.id, e))
  /-- It is going on, and the others are still to be called. -/
  | underway (waiting : List (Listener H)) (delivery : d.underway = [⟨e, waiting, total⟩])
      (notBefore : ∀ n, .returned n ∉ traces h)
      (called : calls (traces h) ++ waiting.map (fun l => (l.id, e)) = ls.map fun l => (l.id, e))

theorem calls_traces_cons (x : Entry H) (h : List (Entry H)) :
    calls (traces (x :: h)) = calls [x.trace] ++ calls (traces h) :=
  calls_cons x.trace (traces h)

/-- A step before, with the listeners that it calls. -/
theorem Serves.cons {e : Event} {ls : List (Listener H)} {total : Nat} {x : Entry H}
    (hs : Serves e ls total h d) (ls' : List (Listener H)) (hx : ∀ n, x.trace ≠ .returned n)
    (hcalls : calls [x.trace] = ls'.map fun l => (l.id, e)) :
    Serves e (ls' ++ ls) total (x :: h) d := by
  have hbefore : ∀ h' : List (Entry H), (∀ n, .returned n ∉ traces h') →
      ∀ n, .returned n ∉ traces (x :: h') := by
    intro h' hnot n hmem
    rcases List.mem_cons.1 hmem with heq | hmem
    · exact hx n heq.symm
    · exact hnot n hmem
  cases hs with
  | ended front back split notBefore called =>
    refine .ended (x :: front) back (by rw [split, List.cons_append]) (hbefore front notBefore) ?_
    rw [calls_traces_cons, hcalls, called, List.map_append]
  | underway waiting delivery notBefore called =>
    refine .underway waiting delivery (hbefore h notBefore) ?_
    rw [calls_traces_cons, hcalls, List.append_assoc, called, List.map_append]

/-- A publication underway goes on with the listeners that wait, and ends with its number. -/
theorem Calm.serves_of_underway {e : Event} {waiting : List (Listener H)} {total : Nat}
    (hcalm : Calm d h d') (hunderway : d.underway = [⟨e, waiting, total⟩]) :
    Serves e waiting total h d' := by
  induction hcalm generalizing waiting with
  | refl d => exact .underway waiting hunderway (fun n hmem => nomatch hmem) rfl
  | @step d d₁ d' a t h hmild hstep hrest ih =>
    have hmild := hmild (by rw [hunderway]; exact List.cons_ne_nil _ _)
    have hmove := moves_of_step? hstep
    cases hmove with
    | subscribe d taskFilter handler =>
      exact (ih hunderway).cons [] (fun n heq => nomatch heq) rfl
    | dispose d id => exact (ih hunderway).cons [] (fun n heq => nomatch heq) rfl
    | publish d e => cases hmild
    | deliver bus e' l waiting' total' rest =>
      cases hunderway
      exact (ih rfl).cons [l] (fun n heq => nomatch heq) rfl
    | finish bus e' total' rest =>
      cases hunderway
      exact .ended [] h rfl (fun n hmem => nomatch hmem) rfl

/-- **A publication calls the listeners that the event concerns**, and returns their number. -/
theorem Calm.serves {e : Event} {t : Trace} (hcalm : Calm d (⟨.publish e, t⟩ :: h) d') :
    Serves e (d.bus.listeners.filter fun l => l.Concerns e)
      (d.bus.listeners.filter fun l => l.Concerns e).length h d' := by
  have hrecipients : d.bus.recipients e = d.bus.listeners.filter fun l => l.Concerns e :=
    List.filter_congr fun l _ => l.wants_eq e
  cases hcalm with
  | step hmild hstep hrest =>
    have hmove := moves_of_step? hstep
    cases hmove with
    | publish d e =>
      refine hrest.serves_of_underway ?_
      rw [Desk.publish, idle_of_publish hmild, hrecipients]

/-! ## One subscription -/

theorem published_cons (l : Listener H) (x : Entry H) (h : List (Entry H)) :
    published l (x :: h)
      = if x.ends l.id then [] else (x.eventFor? l).toList ++ published l h := by
  rw [published, List.takeWhile_cons]
  cases x.ends l.id with
  | true => rfl
  | false =>
    show (x :: h.takeWhile _).filterMap (Entry.eventFor? l) = _ ++ published l h
    rw [List.filterMap_cons]
    cases x.eventFor? l <;> rfl

/-- A publication takes a listener once, if the event concerns it. -/
theorem Numbered.eventsOf_taken (hd : d.Numbered) {l : Listener H} (hl : l ∈ d.bus.listeners)
    (e : Event) : eventsOf l.id (d.taken (.publish e)) = if l.Concerns e then [e] else [] := by
  have hincreasing := hd.increasing
  obtain ⟨front, back, hlisteners⟩ := List.append_of_mem hl
  rw [hlisteners, List.pairwise_append, List.pairwise_cons] at hincreasing
  obtain ⟨-, ⟨hback, -⟩, hfront⟩ := hincreasing
  -- the others have other numbers
  have hother : ∀ ls : List (Listener H), (∀ m ∈ ls, m.id ≠ l.id) →
      eventsOf l.id ((ls.filter fun m => m.wants e).map fun m => (m.id, e)) = [] := by
    intro ls hls
    rw [eventsOf_eq_nil_iff]
    intro c hc
    obtain ⟨m, hm, rfl⟩ := List.mem_map.1 hc
    exact hls m (List.mem_filter.1 hm).1
  show eventsOf l.id ((d.bus.listeners.filter fun m => m.wants e).map fun m => (m.id, e)) = _
  rw [hlisteners, List.filter_append, List.map_append, eventsOf_append,
    hother front fun m hm => Nat.ne_of_lt (hfront m hm l List.mem_cons_self), List.nil_append]
  by_cases hconcerns : l.Concerns e
  · rw [List.filter_cons_of_pos (by simpa [Listener.wants_eq] using hconcerns), if_pos hconcerns]
    show eventsOf l.id ([(l.id, e)] ++ _) = [e]
    rw [eventsOf_append, hother back fun m hm => Nat.ne_of_gt (hback m hm)]
    simp [eventsOf]
  · rw [List.filter_cons_of_neg (by simpa [Listener.wants_eq] using hconcerns), if_neg hconcerns]
    exact hother back fun m hm => Nat.ne_of_gt (hback m hm)

/-- A subscription goes on until it is ended. -/
theorem Moves.mem_listeners {a : Action H} {t : Trace} {l : Listener H} (h : Moves d a t d')
    (hl : l ∈ d.bus.listeners) (hends : Entry.ends l.id ⟨a, t⟩ = false) :
    l ∈ d'.bus.listeners := by
  cases h with
  | subscribe d taskFilter handler => exact List.mem_append_left _ hl
  | dispose d id =>
    have hid : id ≠ l.id := by simpa [Entry.ends] using hends
    exact List.mem_filter.2 ⟨hl, by simpa using hid.symm⟩
  | _ => exact hl

/-- What a step brings to a listener: its own event, behind what was due. -/
theorem Moves.received_append_due {a : Action H} {t : Trace} {l : Listener H} (h : Moves d a t d')
    (hd : d.Numbered) (hl : l ∈ d.bus.listeners) (hmild : d.underway ≠ [] → a.isMild = true) :
    received l.id [t] ++ eventsOf l.id d'.due
      = eventsOf l.id d.due ++ (Entry.eventFor? l ⟨a, t⟩).toList := by
  have hkept := congrArg (eventsOf l.id) h.calls_append_due
  rw [eventsOf_append, eventsOf_append] at hkept
  refine hkept.trans ?_
  cases h with
  | publish d e =>
    rw [hd.eventsOf_taken hl, due, idle_of_publish hmild]
    show _ ++ [] = [] ++ (if l.Concerns e then some e else none).toList
    by_cases hconcerns : l.Concerns e <;> simp [hconcerns]
  | _ => exact (List.append_nil _).symm

/-- **What a listener receives**: what is due to it, and then the events published until its
subscription ends. -/
theorem Calm.received_append_due {l : Listener H} (hcalm : Calm d h d') (hd : d.Numbered)
    (hl : l ∈ d.bus.listeners) :
    received l.id (traces h) ++ eventsOf l.id d'.due = eventsOf l.id d.due ++ published l h := by
  induction hcalm with
  | refl d =>
    show eventsOf l.id d.due = eventsOf l.id d.due ++ []
    rw [List.append_nil]
  | @step d d₁ d' a t h hmild hstep hrest ih =>
    have hmove := moves_of_step? hstep
    cases hends : Entry.ends l.id ⟨a, t⟩ with
    | true =>
      cases hmove with
      | dispose d id =>
        obtain rfl : id = l.id := by simpa [Entry.ends] using hends
        have hforgets : (d.dispose l.id).Forgets l.id := forgets_dispose (hd.listener_lt l hl)
        rw [published_cons, if_pos hends, List.append_nil]
        show received l.id (traces h) ++ eventsOf l.id d'.due = eventsOf l.id d.due
        exact hforgets.received_append_due hrest.run
      | _ => cases hends
    | false =>
      calc received l.id (traces (⟨a, t⟩ :: h)) ++ eventsOf l.id d'.due
          = received l.id [t] ++ (received l.id (traces h) ++ eventsOf l.id d'.due) := by
            rw [← List.append_assoc]
            exact congrArg (· ++ _) (received_cons l.id t (traces h))
        _ = received l.id [t] ++ eventsOf l.id d₁.due ++ published l h := by
            rw [ih (hd.moves hmove) (hmove.mem_listeners hl hends), List.append_assoc]
        _ = eventsOf l.id d.due ++ ((Entry.eventFor? l ⟨a, t⟩).toList ++ published l h) := by
            rw [hmove.received_append_due hd hl hmild, List.append_assoc]
        _ = eventsOf l.id d.due ++ published l (⟨a, t⟩ :: h) := by
            rw [published_cons, hends, if_neg Bool.false_ne_true]

/-- What a subscription receives in a history from its start, and even before. -/
theorem Calm.received_eq {front back : List (Entry H)} {x : Entry H} {l : Listener H}
    (hcalm : Calm .empty (front ++ x :: back) d) (hmade : x.made? = some l) :
    received l.id (traces (front ++ x :: back)) ++ eventsOf l.id d.due = published l back := by
  obtain ⟨d₀, hfront, hrest⟩ := hcalm.split
  have hnumbered₀ : d₀.Numbered := numbered_empty.run hfront.run
  have hbefore := hfront.run.lt_of_called numbered_empty
  cases hrest with
  | step hmild hstep hback =>
    have hmove := moves_of_step? hstep
    have hnumbered := hnumbered₀.moves hmove
    cases hmove with
    | subscribe d₀ taskFilter handler =>
      obtain rfl := Option.some.inj hmade
      -- its number is new, so that nothing was or is due to it
      have hearlier : received d₀.bus.nextId (traces front) = [] :=
        eventsOf_eq_nil_iff.2 fun c hc => Nat.ne_of_lt (hbefore c hc)
      have hdue : eventsOf d₀.bus.nextId (d₀.subscribe taskFilter handler).2.due = [] :=
        eventsOf_eq_nil_iff.2 fun c hc => Nat.ne_of_lt (hnumbered₀.due_lt c hc)
      have hlater := hback.received_append_due hnumbered
        (List.mem_append_right _ (List.mem_singleton_self _))
      dsimp only at hlater ⊢
      rw [hdue, List.nil_append] at hlater
      rw [traces, List.map_append, received_append]
      show (received d₀.bus.nextId (traces front) ++ _) ++ _ = _
      rw [hearlier, List.nil_append]
      exact hlater
    | _ => cases hmade

/-! ## The result -/

/-- The listeners have different numbers. -/
theorem Numbered.nodup (hd : d.Numbered) : (d.bus.listeners.map Listener.id).Nodup :=
  List.pairwise_map.2 (hd.increasing.imp Nat.ne_of_lt)

/-- **Each event goes to its subscriptions.**  In a history in which nothing is published while an
event is being delivered, every publication calls just the subscriptions that the event concerns and
that are live when it starts, once each, in the order in which they were made, whatever becomes of
them meanwhile, and returns their number; it can always be brought to its end.  Every subscription
receives just the events that concern it and are published between its start and its end, in their
order, but for those that are still due.  The bus counts the live subscriptions, and the end of one
leaves the others. -/
theorem deliveries_of_history (hcalm : Calm .empty h d) :
    (∀ front e t back, h = front ++ ⟨.publish e, t⟩ :: back →
      ((live front).map Listener.id).Nodup ∧
      Serves e ((live front).filter fun l => l.Concerns e)
        ((live front).filter fun l => l.Concerns e).length back d) ∧
    (∃ more d', (∀ x ∈ more, x.action = .deliver ∨ x.action = .finish) ∧ Calm d more d' ∧
      d'.underway = []) ∧
    (∀ front x back l, h = front ++ x :: back → x.made? = some l →
      received l.id (traces h) ++ eventsOf l.id d.due = published l back) ∧
    d.bus.count = (live h).length ∧
    ∀ l ∈ live h, ∀ m ∈ live h, m ≠ l → m ∈ (d.dispose l.id).bus.listeners := by
  have hlive : ∀ {h : List (Entry H)} {d : Desk H}, Calm .empty h d → d.bus.listeners = live h :=
    fun hcalm => hcalm.listeners_eq
  have hnodup : ∀ {h : List (Entry H)} {d : Desk H}, Calm .empty h d →
      ((live h).map Listener.id).Nodup := by
    intro h d hcalm
    rw [← hlive hcalm]
    exact (numbered_empty.run hcalm.run).nodup
  refine ⟨?_, exists_calm_rest d, ?_, ?_, ?_⟩
  · rintro front e t back rfl
    obtain ⟨d₀, hfront, hrest⟩ := hcalm.split
    refine ⟨hnodup hfront, ?_⟩
    rw [← hlive hfront]
    exact hrest.serves
  · rintro front x back l rfl hmade
    exact hcalm.received_eq hmade
  · rw [Bus.count, hlive hcalm]
  · intro l hl m hm hne
    have hid : m.id ≠ l.id := fun heq => hne (List.inj_on_of_nodup_map (hnodup hcalm) hm hl heq)
    rw [← hlive hcalm] at hm
    exact List.mem_filter.2 ⟨hm, by simpa using hid⟩

/-- Two subscriptions, one of them for another task, and a third one that is made while the first
one is called; the first one ends before the publication does, and then the third one is called. -/
def changing : List (Entry Unit) :=
  [⟨.subscribe none (), .subscribed 0⟩, ⟨.subscribe (some "x") (), .subscribed 1⟩,
    ⟨.publish report, .started report⟩, ⟨.deliver, .called 0 report⟩,
    ⟨.subscribe none (), .subscribed 2⟩, ⟨.dispose 0, .disposed 0⟩, ⟨.finish, .returned 1⟩,
    ⟨.publish report, .started report⟩, ⟨.deliver, .called 2 report⟩]

/-- The desk after that. -/
def changed : Desk Unit :=
  ⟨⟨3, [⟨1, some "x", ()⟩, ⟨2, none, ()⟩]⟩, [⟨report, [], 1⟩]⟩

/-- Each of the three receives what it should. -/
theorem received_changing :
    Calm .empty changing changed ∧ received 0 (traces changing) = [report] ∧
      received 1 (traces changing) = [] ∧ received 2 (traces changing) = [report] ∧
      changed.bus.count = 2 := by
  have hcalm : Calm .empty changing changed :=
    .step (by decide) rfl <| .step (by decide) rfl <| .step (by decide) rfl <|
      .step (by decide) rfl <| .step (by decide) rfl <| .step (by decide) rfl <|
      .step (by decide) rfl <| .step (by decide) rfl <| .step (by decide) rfl <| .refl _
  obtain ⟨-, -, hreceived, hcount, -⟩ := deliveries_of_history hcalm
  refine ⟨hcalm, ?_, ?_, ?_, hcount⟩
  · exact hreceived [] _ _ ⟨0, none, ()⟩ rfl rfl
  · exact hreceived (changing.take 1) _ _ ⟨1, some "x", ()⟩ rfl rfl
  · exact hreceived (changing.take 4) _ _ ⟨2, none, ()⟩ rfl rfl

end Desk

end AssetSearch.Progress
