/-
# What operations ask of the backend

An operation that passes its guards gives at least one command; one that does not is refused, and
leaves the site exactly as it was.  For every operation with guards there is one statement here,
which says both, and which commands these are.

Key definitions: `Site.commands`, `Site.Gives`, `Asks`.  Key statements: `Search.asks_run`,
`Export.asks_run`, `Export.asks_replay`, `Keys.asks_addBatch`, `Workspace.asks_exportCurrent`.
-/
import AssetSearch.History.Browser
import AssetSearch.Proofs.Backend.WellFormed
import AssetSearch.Proofs.Export.Tracked
import AssetSearch.Settings.Save
import AssetSearch.Workspace

namespace AssetSearch

variable {σ : Type}

/-! ## Commands -/

namespace Site

/-- The commands given so far. -/
def commands (s : Site σ) : List Command :=
  s.journal.map Prod.fst

@[simp] theorem commands_invoke (b : Backend σ) (c : Command) (s : Site σ) :
    (s.invoke b c).2.commands = s.commands ++ [c] := by
  show (s.journal ++ [(c, s.board)]).map Prod.fst = _
  rw [List.map_append]
  rfl

@[simp] theorem commands_nextStamp (s : Site σ) (source : Nat) :
    (s.nextStamp source).2.commands = s.commands := rfl

@[simp] theorem commands_onTracker (tracker : Option Nat)
    (f : Progress.Tracker → Progress.Tracker) (s : Site σ) :
    (Search.onTracker tracker f s).commands = s.commands := by
  cases tracker <;> rfl

/-- From one site to another some commands were given, all of them with a property. -/
def Gives (P : Command → Prop) (s s' : Site σ) : Prop :=
  ∃ cs, s'.commands = s.commands ++ cs ∧ ∀ c ∈ cs, P c

namespace Gives

variable {P Q : Command → Prop} {s s' s'' : Site σ}

theorem of_eq (h : s'.commands = s.commands) : Gives P s s' :=
  ⟨[], by rw [h, List.append_nil], by simp⟩

theorem of_concat {c : Command} (h : s'.commands = s.commands ++ [c]) (hc : P c) : Gives P s s' :=
  ⟨[c], h, by simpa using hc⟩

theorem trans (h : Gives P s s') (h' : Gives P s' s'') : Gives P s s'' := by
  obtain ⟨cs, hcs, hP⟩ := h
  obtain ⟨cs', hcs', hP'⟩ := h'
  refine ⟨cs ++ cs', by rw [hcs', hcs, List.append_assoc], ?_⟩
  intro c hc
  exact (List.mem_append.1 hc).elim (hP c) (hP' c)

theorem imp (h : Gives P s s') (hPQ : ∀ c, P c → Q c) : Gives Q s s' := by
  obtain ⟨cs, hcs, hP⟩ := h
  exact ⟨cs, hcs, fun c hc => hPQ c (hP c hc)⟩

theorem invoke (b : Backend σ) {c : Command} (hc : P c) (s : Site σ) :
    Gives P s (s.invoke b c).2 :=
  .of_concat (commands_invoke b c s) hc

end Gives

end Site

/-! ## Asking -/

/-- A failure that a backend answers some command with. -/
def Backend.Reports (b : Backend σ) (e : Failure) : Prop :=
  ∃ c x, (b c x).1.outcome = .error e

/-- How an operation with guards goes, from one site to another. -/
inductive Asks (b : Backend σ) (P : Command → Prop) (s : Site σ) {α : Type} :
    Outcome α → Site σ → Prop where
  /-- It is refused. -/
  | refused {e : Failure} (local_ : e.isLocalGuard = true) : Asks b P s (.error e) s
  /-- It gives commands; it then fails for a local reason only if the backend has reported it. -/
  | asked {o : Outcome α} {s' : Site σ} (gives : s.Gives P s') (some : s'.commands ≠ s.commands)
      (reports : ∀ e, o = .error e → e.isLocalGuard = true → b.Reports e) : Asks b P s o s'

namespace Asks

variable {b : Backend σ} {P Q : Command → Prop} {s s' : Site σ} {α β : Type} {o : Outcome α}

theorem gives (h : Asks b P s o s') : s.Gives P s' := by
  cases h with
  | refused => exact .of_eq rfl
  | asked hgives => exact hgives

theorem imp (h : Asks b P s o s') (hPQ : ∀ c, P c → Q c) : Asks b Q s o s' := by
  cases h with
  | refused he => exact .refused he
  | asked hgives hsome hreports => exact .asked (hgives.imp hPQ) hsome hreports

/-- One command: the site before it may have new stamps and displays, and so may the one behind. -/
theorem of_invoke {s₁ : Site σ} {c : Command} (hbefore : s₁.commands = s.commands) (hc : P c)
    (hafter : s'.commands = (s₁.invoke b c).2.commands)
    (houtcome : ∀ e, o = .error e → e.isLocalGuard = true → (s₁.invoke b c).1 = .error e) :
    Asks b P s o s' := by
  have hcommands : s'.commands = s.commands ++ [c] := by
    rw [hafter, Site.commands_invoke, hbefore]
  refine .asked (.of_concat hcommands hc) ?_ ?_
  · rw [hcommands]
    simp
  · intro e he hlocal
    exact ⟨c, s₁.backend, houtcome e he hlocal⟩

theorem map (f : α → β) (h : Asks b P s o s') : Asks b P s (o.map f) s' := by
  cases h with
  | refused he => exact .refused he
  | asked hgives hsome hreports =>
    refine .asked hgives hsome ?_
    intro e he
    cases o with
    | error e' =>
      cases he
      exact hreports _ rfl
    | ok a => cases he

end Asks

theorem Site.asks_invoke (b : Backend σ) {P : Command → Prop} {c : Command} (hc : P c)
    (s : Site σ) : Asks b P s (s.invoke b c).1 (s.invoke b c).2 :=
  .of_invoke rfl hc rfl fun _ he _ => he

/-! ## Searches and exports -/

theorem Search.asks_run (b : Backend σ) (source : Nat) (r : SearchRequest) (tracker : Option Nat)
    (s : Site σ) :
    Asks b (fun c => c = .search r ∧ Text.blank r.query = false) s
      (run b source r tracker s).1 (run b source r tracker s).2 := by
  unfold run
  split
  · exact .refused rfl
  · next hquery =>
    let s₁ := onTracker tracker (announce (Task.searchId (s.nextStamp source).1) r)
      (s.nextStamp source).2
    have hbefore : s₁.commands = s.commands := by simp [s₁]
    refine .of_invoke hbefore ⟨rfl, by simpa using hquery⟩ ?_ fun _ he _ => he
    exact Site.commands_onTracker tracker _ _

namespace Export

/-- The export of a task always gives its command. -/
theorem asks_runTask (b : Backend σ) (task : Task) (scope : ExportScope) (platform : Platform)
    {r : ExportRequest} (hr : r.Complete) (tracker : Nat) {s₀ s : Site σ}
    (hs : s.commands = s₀.commands) :
    Asks b Command.Exports s₀ (runTask b task scope platform r tracker s).1
      (runTask b task scope platform r tracker s).2 := by
  by_cases hscope : scope = .all
  · subst hscope
    let s₁ := s.update tracker fun t => announceAll (announce task.id .all platform r t)
    have hbefore : s₁.commands = s₀.commands := hs
    exact Asks.map _ (.of_invoke hbefore (c := .exportAll r) (.all hr) rfl fun _ he _ => he)
  · let s₁ := (start task scope platform r tracker s).2
    have hbefore : s₁.commands = s₀.commands := hs
    rw [runTask_eq b hscope]
    exact Asks.map _
      (.of_invoke hbefore (c := .exportPlatform task.id platform r) (.platform task.id platform hr)
        rfl fun _ he _ => he)

theorem asks_run (b : Backend σ) (source : Nat) (scope : ExportScope) (platform : Platform)
    (r : ExportRequest) (tracker : Nat) (s : Site σ) :
    Asks b Command.Exports s (run b source scope platform r tracker s).1
      (run b source scope platform r tracker s).2 := by
  have hguards := guards_check r
  unfold run
  cases hcheck : r.check with
  | error e => exact .refused (hcheck ▸ hguards).isLocalGuard
  | ok _ => exact asks_runTask b _ scope platform (hcheck ▸ hguards).holds tracker rfl

theorem asks_replay (b : Backend σ) (source : Nat) (record : HistoryRecord) (tracker : Nat)
    (s : Site σ) :
    Asks b Command.Exports s (replay b source record tracker s).1
      (replay b source record tracker s).2 := by
  have hguards := guards_replayRequest record
  unfold replay
  cases hrequest : replayRequest record with
  | error e => exact .refused (hrequest ▸ hguards).isLocalGuard
  | ok x => exact asks_runTask b _ .platform x.1 (hrequest ▸ hguards).holds tracker rfl

end Export

/-! ## Keys, queries and settings -/

namespace Keys

variable (b : Backend σ) (theme : Theme) (platform : Platform) (email : Option String) (s : Site σ)

theorem asks_add (key : String) :
    Asks b (Command.WellFormed theme) s (add b platform key email s).1
      (add b platform key email s).2 := by
  have hguards := guards_checked platform key email
  unfold add
  cases hchecked : checked platform key email with
  | error e => exact .refused (hchecked ▸ hguards).isLocalGuard
  | ok x => exact s.asks_invoke b (c := .addKey platform x.1 x.2) (hchecked ▸ hguards).holds

theorem asks_delete (key : String) :
    Asks b (Command.WellFormed theme) s (delete b platform key email s).1
      (delete b platform key email s).2 := by
  have hguards := guards_checked platform key email
  unfold delete
  cases hchecked : checked platform key email with
  | error e => exact .refused (hchecked ▸ hguards).isLocalGuard
  | ok x => exact s.asks_invoke b (c := .deleteKey platform x.1 x.2) (hchecked ▸ hguards).holds

theorem asks_validate (key : String) :
    Asks b (Command.WellFormed theme) s (validate b platform key email s).1
      (validate b platform key email s).2 := by
  have hguards := guards_checked platform key email
  unfold validate
  cases hchecked : checked platform key email with
  | error e => exact .refused (hchecked ▸ hguards).isLocalGuard
  | ok x => exact s.asks_invoke b (c := .validateKey platform x.1 x.2) (hchecked ▸ hguards).holds

/-- One command for each key. -/
theorem commands_addEach (keys : List String) (counts : BatchOutcome) :
    (addEach b platform email keys counts s).2.commands
      = s.commands ++ keys.map fun key => .addKey platform key email := by
  induction keys generalizing counts s with
  | nil => exact (List.append_nil _).symm
  | cons key rest ih =>
    refine (ih (s.invoke b (.addKey platform key email)).2 _).trans ?_
    rw [Site.commands_invoke, List.append_assoc]
    rfl

theorem asks_addBatch (text : String) :
    Asks b (Command.WellFormed theme) s (addBatch b platform text email s).1
      (addBatch b platform text email s).2 := by
  have hguards := guards_checkedEmail platform email
  unfold addBatch
  dsimp only
  split
  · exact .refused rfl
  · next hkeys =>
    cases hemail : checkedEmail platform email with
    | error e => exact .refused (hemail ▸ hguards).isLocalGuard
    | ok sent =>
      have hcommands := commands_addEach b platform sent s (parseBatch text) ⟨0, 0⟩
      refine .asked ⟨_, hcommands, ?_⟩ ?_ fun e he => by cases he
      · intro c hc
        obtain ⟨key, hkey, rfl⟩ := List.mem_map.1 hc
        exact ⟨filled_of_mem_parseBatch hkey, (hemail ▸ hguards).holds⟩
      · intro hsame
        have hnone := List.append_right_eq_self.1 (hcommands.symm.trans hsame)
        simp [List.map_eq_nil_iff.1 hnone] at hkeys

end Keys

namespace Translation

variable (b : Backend σ) (theme : Theme) (query : String) (platform target : Platform) (s : Site σ)

/-- A failure that the verdict on a query keeps is that of the backend. -/
theorem eq_error_of_verdict {outcome : Outcome Bool} {e : Failure}
    (h : verdict platform outcome = .error e) (hlocal : e.isLocalGuard = true) :
    outcome = .error e := by
  unfold verdict at h
  split at h
  · cases h
  · cases h
    cases hlocal
  · cases h
    cases hlocal
  · cases h
    rfl

theorem asks_validate :
    Asks b (Command.WellFormed theme) s (validate b query platform s).1
      (validate b query platform s).2 := by
  have hguards := guards_trimmedQuery query
  unfold validate
  cases htrimmed : trimmedQuery query with
  | error e => exact .refused (htrimmed ▸ hguards).isLocalGuard
  | ok q =>
    exact .of_invoke rfl (c := .validateQuery q platform) (htrimmed ▸ hguards).holds rfl
      fun _ he hlocal => eq_error_of_verdict platform he hlocal

theorem asks_convert :
    Asks b (Command.WellFormed theme) s (convert b query platform target s).1
      (convert b query platform target s).2 := by
  have hguards := guards_trimmedQuery query
  unfold convert
  cases htrimmed : trimmedQuery query with
  | error e => exact .refused (htrimmed ▸ hguards).isLocalGuard
  | ok q =>
    exact (s.asks_invoke b (c := .convert q platform target) (htrimmed ▸ hguards).holds).map _

theorem asks_convertToAll :
    Asks b (Command.WellFormed theme) s (convertToAll b query platform s).1
      (convertToAll b query platform s).2 := by
  have hguards := guards_trimmedQuery query
  unfold convertToAll
  cases htrimmed : trimmedQuery query with
  | error e => exact .refused (htrimmed ▸ hguards).isLocalGuard
  | ok q =>
    exact (s.asks_invoke b (c := .convertToAll q platform) (htrimmed ▸ hguards).holds).map _

end Translation

theorem Settings.asks_save (b : Backend σ) (store : ThemeStore) (settings : Settings)
    (s : Site σ) :
    Asks b (Command.WellFormed store.theme) s (save b store settings s).1
      (save b store settings s).2 := by
  unfold save
  split
  · exact .refused rfl
  · next hsize =>
    let sent := settings.withTheme store.theme
    have hsent : 1 ≤ sent.pageSize := Nat.one_le_iff_ne_zero.2 hsize
    have hasks : Asks b (Command.WellFormed store.theme) s _ _ :=
      s.asks_invoke b (c := .saveSettings sent) ⟨hsent, rfl⟩
    replace hasks := hasks.map fun _ => sent
    dsimp only
    rcases houtcome : s.invoke b (.saveSettings sent) with ⟨e | _, s'⟩
    · rwa [houtcome] at hasks
    · rwa [houtcome] at hasks

/-! ## Views -/

namespace Workspace

variable (b : Backend σ) (w : Workspace) (s : Site σ)

theorem asks_runSearch (page : Nat) :
    Asks b (fun c => ∃ query, c = .search ⟨w.platform, query, page, w.pageSize⟩ ∧ Text.Filled query)
      s (w.runSearch b page s).1 (w.runSearch b page s).2.2 := by
  let r : SearchRequest := ⟨w.platform, Text.trim w.composer.text, page, w.pageSize⟩
  have hasks := Search.asks_run b w.source r (some w.searchTracker) s
  have hfilled : Text.blank r.query = false → Text.Filled r.query := fun h =>
    Text.filled_trim (Text.blank_eq_false_of_trim h)
  replace hasks := hasks.imp fun c hc =>
    show ∃ query, c = .search ⟨w.platform, query, page, w.pageSize⟩ ∧ Text.Filled query from
      ⟨r.query, hc.1, hfilled hc.2⟩
  unfold runSearch
  dsimp only
  rcases houtcome : Search.run b w.source r (some w.searchTracker) s with ⟨e | results, s'⟩
  · rwa [houtcome] at hasks
  · rwa [houtcome] at hasks

theorem asks_search :
    Asks b (fun c => ∃ query, c = .search ⟨w.platform, query, 1, w.pageSize⟩ ∧ Text.Filled query)
      s (w.search b s).1 (w.search b s).2.2 := by
  rw [search]
  exact asks_runSearch b w s 1

theorem asks_changePage (page pageSize : Nat) :
    Asks b (fun c => ∃ r, c = .search r ∧ r.Complete) s (w.changePage b page pageSize s).1
      (w.changePage b page pageSize s).2.2 := by
  unfold changePage
  split
  · exact .refused rfl
  · next hsize =>
    refine (asks_runSearch b { w with pageSize := pageSize } s (max page 1)).imp ?_
    rintro c ⟨query, rfl, hquery⟩
    exact ⟨_, rfl, hquery, Nat.le_max_right page 1, Nat.one_le_iff_ne_zero.2 hsize⟩

theorem asks_exportCurrent :
    Asks b Command.Exports s (w.exportCurrent b s).1 (w.exportCurrent b s).2 := by
  unfold exportCurrent
  split
  · exact .refused rfl
  · exact Export.asks_run b w.source .current w.platform _ w.exportTracker s

theorem asks_cancelExport :
    Asks b (fun c => ∃ taskId, c = .cancelExport taskId) s (w.cancelExport b s).1
      (w.cancelExport b s).2 := by
  unfold cancelExport
  dsimp only
  split
  · next taskId _ =>
    split
    · exact s.asks_invoke b (c := .cancelExport taskId) ⟨taskId, rfl⟩
    · exact .refused rfl
  · exact .refused rfl

end Workspace

namespace Browser

variable (b : Backend σ) (v : Browser) (s : Site σ)

theorem asks_writeTo (directory : String) :
    Asks b (fun c => c = .writeHistory directory) s (v.writeTo b directory s).1
      (v.writeTo b directory s).2 := by
  unfold writeTo
  by_cases hempty : v.records.isEmpty = true
  · simp only [hempty]
    exact .refused rfl
  · simp only [hempty, Bool.false_eq_true]
    exact Site.asks_invoke b (P := fun c => c = .writeHistory directory) rfl s

theorem asks_exportRecord (id : String) :
    Asks b Command.Exports s (v.exportRecord b id s).1 (v.exportRecord b id s).2 := by
  unfold exportRecord
  split
  · exact .refused rfl
  · next record _ =>
    split
    · exact Export.asks_replay b v.source record v.tracker s
    · exact .refused rfl

end Browser

end AssetSearch
