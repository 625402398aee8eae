/-
# The list on display and the list of the backend

A backend that keeps the past queries changes them only when it is told to delete some or all.  Once
its list has been loaded, the list on display is the same after every operation, whichever calls
fail: where the list cannot be loaded again after a change, the change is made here as well.

Key definitions: `KeepsHistory`, `Browser.Action`, `Browser.run`, `Browser.Loads`.  Key statements:
`inStep_act`, `inStep_run`, `records_in_step`.
-/
import AssetSearch.History.Browser

namespace AssetSearch

variable {σ : Type}

/-- The records without those that have an id. -/
def withoutId (id : String) (records : List HistoryRecord) : List HistoryRecord :=
  records.filter fun r => r.id ≠ id

/-- A backend keeps the past queries: it gives them out as they are stored, deletes what it is told
to, and leaves them as they are when a call fails. -/
structure KeepsHistory (b : Backend σ) (stored : σ → List HistoryRecord) : Prop where
  loaded : ∀ x records, (b .history x).1.outcome = .ok records → records = stored x
  stored_load : ∀ x, stored (b .history x).2 = stored x
  stored_delete : ∀ id x, (b (.deleteHistory id) x).1.outcome = .ok () →
    stored (b (.deleteHistory id) x).2 = withoutId id (stored x)
  stored_clear : ∀ x, (b .clearHistory x).1.outcome = .ok () → stored (b .clearHistory x).2 = []
  stored_of_failed_delete : ∀ id x e, (b (.deleteHistory id) x).1.outcome = .error e →
    stored (b (.deleteHistory id) x).2 = stored x
  stored_of_failed_clear : ∀ x e, (b .clearHistory x).1.outcome = .error e →
    stored (b .clearHistory x).2 = stored x

namespace Browser

/-! ## Operations and runs -/

/-- What is done to the list on display. -/
inductive Action where
  | reload
  | delete (id : String)
  | clear
  | setFilter (filter : HistoryFilter)

/-- One operation. -/
def act (b : Backend σ) (a : Action) (v : Browser) (s : Site σ) : Browser × Site σ :=
  match a with
  | .reload => (v.reload b s).2
  | .delete id => (v.delete b id s).2
  | .clear => (v.clear b s).2
  | .setFilter filter => (v.setFilter filter, s)

/-- Some operations, one after the other. -/
def run (b : Backend σ) (as : List Action) (v : Browser) (s : Site σ) : Browser × Site σ :=
  as.foldl (fun x a => x.1.act b a x.2) (v, s)

theorem run_append (b : Backend σ) (as as' : List Action) (v : Browser) (s : Site σ) :
    v.run b (as ++ as') s = (v.run b as s).1.run b as' (v.run b as s).2 := by
  rw [run, run, run, List.foldl_append]

/-- The call for the list succeeds in some state of the backend. -/
def Gives (b : Backend σ) (x : σ) : Prop :=
  ∃ records, (b .history x).1.outcome = .ok records

/-- An operation loads the list: it calls for it, and the call succeeds. -/
def Loads (b : Backend σ) (a : Action) (x : σ) : Prop :=
  match a with
  | .reload => Gives b x
  | .delete id => (b (.deleteHistory id) x).1.outcome = .ok () ∧ Gives b (b (.deleteHistory id) x).2
  | .clear => (b .clearHistory x).1.outcome = .ok () ∧ Gives b (b .clearHistory x).2
  | .setFilter _ => False

/-! ## One operation -/

/-- The list on display is that of the backend. -/
def InStep (stored : σ → List HistoryRecord) (v : Browser) (s : Site σ) : Prop :=
  v.records = stored s.backend

variable {b : Backend σ} {stored : σ → List HistoryRecord} {v : Browser} {s : Site σ}

/-- A command gives back what the backend answers. -/
theorem invoke_eq {c : Command} {outcome : Outcome c.Result}
    (h : (b c s.backend).1.outcome = outcome) : s.invoke b c = (outcome, (s.invoke b c).2) := by
  rw [← h]
  rfl

theorem reload_of_ok {records : List HistoryRecord}
    (h : (b .history s.backend).1.outcome = .ok records) :
    v.reload b s = (.ok records, { v with records := records }, (s.invoke b .history).2) := by
  rw [reload, invoke_eq h]

theorem reload_of_error {e : Failure} (h : (b .history s.backend).1.outcome = .error e) :
    v.reload b s = (.error e, v, (s.invoke b .history).2) := by
  rw [reload, invoke_eq h]

/-- A loaded list is that of the backend. -/
theorem inStep_reload (h : KeepsHistory b stored) (hgives : Gives b s.backend) :
    InStep stored (v.reload b s).2.1 (v.reload b s).2.2 := by
  obtain ⟨records, hok⟩ := hgives
  rw [reload_of_ok hok]
  exact (h.loaded _ _ hok).trans (h.stored_load _).symm

/-- After a change in the backend the list is in step if it is loaded, or if the change made here
instead is the same. -/
theorem inStep_refresh (h : KeepsHistory b stored)
    {change : List HistoryRecord → List HistoryRecord}
    (hstep : Gives b s.backend ∨ change v.records = stored s.backend) :
    InStep stored (v.refresh b change s).1 (v.refresh b change s).2 := by
  rcases houtcome : (b .history s.backend).1.outcome with e | records
  · have hchange : change v.records = stored s.backend := by
      rcases hstep with ⟨records, hok⟩ | hchange
      · rw [houtcome] at hok
        cases hok
      · exact hchange
    rw [refresh, reload_of_error houtcome]
    exact hchange.trans (h.stored_load _).symm
  · have hreload := inStep_reload (v := v) h ⟨records, houtcome⟩
    rw [refresh, reload_of_ok houtcome]
    rwa [reload_of_ok houtcome] at hreload

theorem delete_of_ok {id : String} (h : (b (.deleteHistory id) s.backend).1.outcome = .ok ()) :
    v.delete b id s =
      (.ok (), v.refresh b (withoutId id) (s.invoke b (.deleteHistory id)).2) := by
  rw [delete, invoke_eq h]
  rfl

theorem delete_of_error {id : String} {e : Failure}
    (h : (b (.deleteHistory id) s.backend).1.outcome = .error e) :
    v.delete b id s = (.error e, v, (s.invoke b (.deleteHistory id)).2) := by
  rw [delete, invoke_eq h]

theorem clear_of_ok (h : (b .clearHistory s.backend).1.outcome = .ok ()) :
    v.clear b s = (.ok (), v.refresh b (fun _ => []) (s.invoke b .clearHistory).2) := by
  rw [clear, invoke_eq h]

theorem clear_of_error {e : Failure} (h : (b .clearHistory s.backend).1.outcome = .error e) :
    v.clear b s = (.error e, v, (s.invoke b .clearHistory).2) := by
  rw [clear, invoke_eq h]

/-- **One operation keeps the list in step**, and brings it into step when it loads the list. -/
theorem inStep_act (h : KeepsHistory b stored) (a : Action)
    (hstep : Loads b a s.backend ∨ InStep stored v s) :
    InStep stored (v.act b a s).1 (v.act b a s).2 := by
  cases a with
  | reload =>
    show InStep stored (v.reload b s).2.1 (v.reload b s).2.2
    rcases houtcome : (b .history s.backend).1.outcome with e | records
    · have hkept := hstep.resolve_left (by simp [Loads, Gives, houtcome])
      rw [reload_of_error houtcome]
      exact hkept.trans (h.stored_load _).symm
    · exact inStep_reload h ⟨records, houtcome⟩
  | delete id =>
    show InStep stored (v.delete b id s).2.1 (v.delete b id s).2.2
    rcases houtcome : (b (.deleteHistory id) s.backend).1.outcome with e | ⟨⟩
    · -- nothing was deleted, here or there
      have hkept := hstep.resolve_left (by simp [Loads, houtcome])
      rw [delete_of_error houtcome]
      exact hkept.trans (h.stored_of_failed_delete id _ e houtcome).symm
    · rw [delete_of_ok houtcome]
      refine inStep_refresh h ?_
      rcases hstep with ⟨-, hgives⟩ | hkept
      · exact .inl hgives
      · have hsame : withoutId id v.records = withoutId id (stored s.backend) :=
          congrArg (withoutId id) hkept
        exact .inr (hsame.trans (h.stored_delete id _ houtcome).symm)
  | clear =>
    show InStep stored (v.clear b s).2.1 (v.clear b s).2.2
    rcases houtcome : (b .clearHistory s.backend).1.outcome with e | ⟨⟩
    · have hkept := hstep.resolve_left (by simp [Loads, houtcome])
      rw [clear_of_error houtcome]
      exact hkept.trans (h.stored_of_failed_clear _ e houtcome).symm
    · rw [clear_of_ok houtcome]
      exact inStep_refresh h (.inr (h.stored_clear _ houtcome).symm)
  | setFilter filter => exact hstep.resolve_left (by simp [Loads])

/-- **A run keeps the list in step.** -/
theorem inStep_run (h : KeepsHistory b stored) (as : List Action) (hkept : InStep stored v s) :
    InStep stored (v.run b as s).1 (v.run b as s).2 := by
  induction as generalizing v s with
  | nil => exact hkept
  | cons a as ih => exact ih (inStep_act h a (.inr hkept))

/-! ## The result -/

/-- **The list stays in step with the backend.**  From the first operation that loads the list, the
records on display are those of the backend after every operation of a run, whichever calls fail.
Deleting and clearing return what the backend says to their own command, and if that is a failure
the view is as it was. -/
theorem records_in_step (b : Backend σ) (stored : σ → List HistoryRecord)
    (h : KeepsHistory b stored) (v : Browser) (s : Site σ) :
    (∀ before a behind, Loads b a (v.run b before s).2.backend →
      (v.run b (before ++ a :: behind) s).1.records
        = stored (v.run b (before ++ a :: behind) s).2.backend) ∧
    (∀ as id, let v' := (v.run b as s).1; let s' := (v.run b as s).2
      (v'.delete b id s').1 = (b (.deleteHistory id) s'.backend).1.outcome ∧
      ∀ e, (v'.delete b id s').1 = .error e → (v'.delete b id s').2.1 = v') ∧
    (∀ as, let v' := (v.run b as s).1; let s' := (v.run b as s).2
      (v'.clear b s').1 = (b .clearHistory s'.backend).1.outcome ∧
      ∀ e, (v'.clear b s').1 = .error e → (v'.clear b s').2.1 = v') := by
  refine ⟨?_, ?_, ?_⟩
  · intro before a behind hloads
    rw [run_append]
    exact inStep_run h behind (inStep_act h a (.inl hloads))
  · intro as id v' s'
    rcases houtcome : (b (.deleteHistory id) s'.backend).1.outcome with e | ⟨⟩
    · rw [delete_of_error houtcome]
      exact ⟨rfl, fun _ _ => rfl⟩
    · rw [delete_of_ok houtcome]
      exact ⟨rfl, fun _ herror => by cases herror⟩
  · intro as v' s'
    rcases houtcome : (b .clearHistory s'.backend).1.outcome with e | ⟨⟩
    · rw [clear_of_error houtcome]
      exact ⟨rfl, fun _ _ => rfl⟩
    · rw [clear_of_ok houtcome]
      exact ⟨rfl, fun _ herror => by cases herror⟩

/-! ## A backend that fails at will -/

/-- A backend that keeps a list, and is told of each call whether it succeeds. -/
def shelf : Backend (List HistoryRecord × List Bool)
  | .history, (records, true :: later) => (⟨[], .ok records⟩, (records, later))
  | .deleteHistory id, (records, true :: later) => (⟨[], .ok ()⟩, (withoutId id records, later))
  | .clearHistory, (_, true :: later) => (⟨[], .ok ()⟩, ([], later))
  | _, (records, calls) => (⟨[], .error (.connectionLost "")⟩, (records, calls.tail))

theorem keepsHistory_shelf : KeepsHistory shelf Prod.fst where
  loaded := by
    rintro ⟨records, _ | ⟨_ | _, later⟩⟩ records' h
    · cases h
    · cases h
    · exact (Except.ok.inj h).symm
  stored_load := by
    rintro ⟨records, _ | ⟨_ | _, later⟩⟩ <;> rfl
  stored_delete := by
    rintro id ⟨records, _ | ⟨_ | _, later⟩⟩ h
    · cases h
    · cases h
    · rfl
  stored_clear := by
    rintro ⟨records, _ | ⟨_ | _, later⟩⟩ h
    · cases h
    · cases h
    · rfl
  stored_of_failed_delete := by
    rintro id ⟨records, _ | ⟨_ | _, later⟩⟩ e h
    · rfl
    · rfl
    · cases h
  stored_of_failed_clear := by
    rintro ⟨records, _ | ⟨_ | _, later⟩⟩ e h
    · rfl
    · rfl
    · cases h

/-- A list with two records of one id: the list is loaded, both are deleted, and neither can the
list be loaded after that nor can it be cleared. -/
theorem records_in_step_unreliable :
    let day : Date := ⟨2024, 5, 1, by decide, by decide, by decide⟩
    let record (id : String) : HistoryRecord := ⟨id, "fofa", "a", 1, ⟨day, 0, 0⟩, true, none⟩
    let s : Site (List HistoryRecord × List Bool) :=
      ⟨([record "x", record "y", record "x"], [true, true, false, false]), .new [], [], 0, []⟩
    let after := (Browser.new 0 0).run shelf [.reload, .delete "x", .clear] s
    KeepsHistory shelf Prod.fst ∧ after.1.records = [record "y"] ∧
      after.1.records = after.2.backend.1 ∧ (after.1.clear shelf after.2).2.1 = after.1 := by
  intro day record s after
  have h := records_in_step shelf Prod.fst keepsHistory_shelf (Browser.new 0 0) s
  refine ⟨keepsHistory_shelf, rfl, h.1 [] .reload [.delete "x", .clear] ⟨_, rfl⟩, ?_⟩
  exact (h.2.2 [.reload, .delete "x", .clear]).2 (.connectionLost "") rfl

end Browser

end AssetSearch
