/-
# Where the results on display come from

The results of a query view were brought by a search on the platform of its query.  When the view is
switched to another platform, they are dropped.  When only its composer is, they stay, while the
platform of the view is that of the composer: then they are no longer of the current platform, and
an export of what is on display asks another platform than the one that was searched.

Key definitions: `Workspace.Operation`, `Workspace.run`, `Workspace.Brings`, `Workspace.lastTarget`.
Key statements: `perform_cases`, `exists_origin`, `results_of_platform_iff`.
-/
import AssetSearch.Proofs.Backend.Runs
import AssetSearch.Proofs.Query.Texts

namespace AssetSearch

variable {σ : Type}

/-! ## Searches and exports -/

theorem Search.backend_onTracker (tracker : Option Nat) (f : Progress.Tracker → Progress.Tracker)
    (s : Site σ) : (onTracker tracker f s).backend = s.backend := by
  cases tracker <;> rfl

/-- A search with a query gives its command, and what the backend answers. -/
theorem Search.run_of_filled (b : Backend σ) (source : Nat) {r : SearchRequest}
    (tracker : Option Nat) (s : Site σ) (h : Text.blank r.query = false) :
    (run b source r tracker s).2.commands = s.commands ++ [.search r] ∧
      (run b source r tracker s).1 = (b (.search r) s.backend).1.outcome := by
  unfold run
  rw [if_neg (ne_true_of_eq_false h)]
  let s₁ := onTracker tracker (announce (Task.searchId (s.nextStamp source).1) r)
    (s.nextStamp source).2
  have hbackend : s₁.backend = s.backend := backend_onTracker tracker _ _
  refine ⟨?_, ?_⟩
  · show (onTracker tracker _ (s₁.invoke b (.search r)).2).commands = _
    rw [Site.commands_onTracker, Site.commands_invoke, Site.commands_onTracker,
      Site.commands_nextStamp]
  · show (b (.search r) s₁.backend).1.outcome = _
    rw [hbackend]

/-- A search that succeeds gives its command, and its page is the answer of the backend. -/
theorem Search.of_run_ok {b : Backend σ} {source : Nat} {r : SearchRequest} {tracker : Option Nat}
    {s : Site σ} {page : SearchPage} (h : (run b source r tracker s).1 = .ok page) :
    (run b source r tracker s).2.commands = s.commands ++ [.search r] ∧
      (b (.search r) s.backend).1.outcome = .ok page := by
  cases hquery : Text.blank r.query with
  | true =>
    rw [run, if_pos hquery] at h
    cases h
  | false =>
    obtain ⟨hcommands, houtcome⟩ := run_of_filled b source tracker s hquery
    exact ⟨hcommands, houtcome.symm.trans h⟩

/-- An export of what is on display asks the platform that it is given. -/
theorem Export.gives_run_current (b : Backend σ) (source : Nat) (platform : Platform)
    (r : ExportRequest) (tracker : Nat) (s : Site σ) :
    s.Gives (fun c => ∃ taskId r', c = .exportPlatform taskId platform r')
      (run b source .current platform r tracker s).2 := by
  unfold run
  cases r.check with
  | error e => exact .of_eq rfl
  | ok _ =>
    let task : Task :=
      ⟨Task.exportId (s.nextStamp source).1, .exporting, some platform, r.query⟩
    let s₁ := (start task .current platform r tracker (s.nextStamp source).2).2
    have hbefore : s₁.commands = s.commands := rfl
    refine .of_concat (c := .exportPlatform task.id platform r) ?_ ⟨task.id, r, rfl⟩
    show (s₁.invoke b (.exportPlatform task.id platform r)).2.commands = _
    rw [Site.commands_invoke, hbefore]

/-! ## Operations of a view -/

/-- The platform that an operation of a composer switches to. -/
def Composer.Action.target? : Composer.Action → Option Platform
  | .switchPlatform platform => some platform
  | _ => none

theorem Composer.platform_act (c : Composer) (a : Composer.Action) :
    (c.act a).platform = a.target?.getD c.platform := by
  cases a with
  | setText | select | switchPlatform | clear => rfl
  | applyLocation location append => exact c.platform_applyLocation location append

namespace Workspace

/-- What is done in a query view: the operations of its composer, and its own. -/
inductive Operation where
  | compose (a : Composer.Action)
  | applyLocation (location : Query.Location) (append : Bool)
  | switchPlatform (platform : Platform)
  | search
  | changePage (page pageSize : Nat)
  | exportCurrent
  | cancelExport

namespace Operation

/-- The operation among all that may be done in a view. -/
def action : Operation → Action
  | compose a => .edit fun c => c.act a
  | applyLocation location append => .applyLocation location append
  | switchPlatform platform => .switchPlatform platform
  | search => .search
  | changePage page pageSize => .changePage page pageSize
  | exportCurrent => .exportCurrent
  | cancelExport => .cancelExport

/-- The platform that the operation switches the composer to, without the view. -/
def target? : Operation → Option Platform
  | compose a => a.target?
  | _ => none

end Operation

/-- The view after an operation. -/
def perform (b : Backend σ) (w : Workspace) (o : Operation) (s : Site σ) : Workspace :=
  (w.act b o.action s).1

/-- The view after some operations.  Between them, the backend and the rest of the program may do
anything, so every operation comes with the site that it finds. -/
def run (b : Backend σ) (w : Workspace) (ops : List (Operation × Site σ)) : Workspace :=
  ops.foldl (fun w x => w.perform b x.1 x.2) w

theorem run_append (b : Backend σ) (w : Workspace) (ops ops' : List (Operation × Site σ)) :
    w.run b (ops ++ ops') = (w.run b ops).run b ops' :=
  List.foldl_append

theorem run_concat (b : Backend σ) (w : Workspace) (ops : List (Operation × Site σ))
    (o : Operation) (s : Site σ) : w.run b (ops ++ [(o, s)]) = (w.run b ops).perform b o s :=
  run_append b w ops [(o, s)]

/-- An operation asks the backend for a page of the matches on the platform of the view, and this is
the page that it gets. -/
def Brings (b : Backend σ) (w : Workspace) (o : Operation) (s : Site σ)
    (page : SearchPage) : Prop :=
  ∃ r : SearchRequest, r.platform = w.platform ∧
    (w.act b o.action s).2.commands = s.commands ++ [.search r] ∧
    (b (.search r) s.backend).1.outcome = .ok page

/-- A search brings new results, or changes nothing in the view. -/
theorem runSearch_cases (b : Backend σ) (w : Workspace) (page : Nat) (s : Site σ) :
    (∃ r results, r.platform = w.platform ∧
      (w.runSearch b page s).2.2.commands = s.commands ++ [.search r] ∧
      (b (.search r) s.backend).1.outcome = .ok results ∧
      (w.runSearch b page s).2.1 = { w with results := results, page := page }) ∨
    (w.runSearch b page s).2.1 = w := by
  let r : SearchRequest := ⟨w.platform, Text.trim w.composer.text, page, w.pageSize⟩
  have hok := @Search.of_run_ok σ b w.source r (some w.searchTracker) s
  unfold runSearch
  dsimp only
  rcases houtcome : Search.run b w.source r (some w.searchTracker) s with ⟨e | results, s'⟩
  · exact .inr rfl
  · rw [houtcome] at hok
    obtain ⟨hcommands, hanswer⟩ := hok rfl
    exact .inl ⟨r, results, rfl, hcommands, hanswer, rfl⟩

theorem act_search (b : Backend σ) (w : Workspace) (s : Site σ) :
    w.act b Operation.search.action s = (w.runSearch b 1 s).2 := by
  dsimp only [Operation.action, act]
  rw [search]

theorem act_changePage (b : Backend σ) (w : Workspace) (page pageSize : Nat) (s : Site σ) :
    w.act b (Operation.changePage page pageSize).action s =
      if pageSize = 0 then (w, s)
      else (({ w with pageSize := pageSize } : Workspace).runSearch b (max page 1) s).2 := by
  dsimp only [Operation.action, act]
  rw [changePage]
  split <;> rfl

/-- **What an operation does to the results**: it brings them from the platform of the view, it
drops them with the platform, or it keeps them, and then only the composer can have moved the view
to another platform. -/
theorem perform_cases (b : Backend σ) (w : Workspace) (o : Operation) (s : Site σ) :
    (w.Brings b o s (w.perform b o s).results ∧ (w.perform b o s).platform = w.platform) ∨
      (w.perform b o s).results = noResults ∨
      (w.perform b o s).results = w.results ∧
        (w.perform b o s).platform = o.target?.getD w.platform := by
  cases o with
  | compose a => exact .inr (.inr ⟨rfl, Composer.platform_act w.composer a⟩)
  | applyLocation location append =>
    exact .inr (.inr ⟨rfl, Composer.platform_act w.composer (.applyLocation location append)⟩)
  | switchPlatform platform => exact .inr (.inl rfl)
  | search =>
    rw [perform, Brings, act_search]
    rcases runSearch_cases b w 1 s with ⟨r, results, hr, hcommands, hanswer, hview⟩ | hsame
    · rw [hview]
      exact .inl ⟨⟨r, hr, hcommands, hanswer⟩, rfl⟩
    · rw [hsame]
      exact .inr (.inr ⟨rfl, rfl⟩)
  | changePage page pageSize =>
    rw [perform, Brings, act_changePage]
    by_cases hsize : pageSize = 0
    · rw [if_pos hsize]
      exact .inr (.inr ⟨rfl, rfl⟩)
    · rw [if_neg hsize]
      rcases runSearch_cases b { w with pageSize := pageSize } (max page 1) s with
        ⟨r, results, hr, hcommands, hanswer, hview⟩ | hsame
      · rw [hview]
        exact .inl ⟨⟨r, hr, hcommands, hanswer⟩, rfl⟩
      · rw [hsame]
        exact .inr (.inr ⟨rfl, rfl⟩)
  | exportCurrent => exact .inr (.inr ⟨rfl, rfl⟩)
  | cancelExport => exact .inr (.inr ⟨rfl, rfl⟩)

/-- An export of what is on display asks the platform of the view. -/
theorem gives_exportCurrent (b : Backend σ) (w : Workspace) (s : Site σ) :
    s.Gives (fun c => ∃ taskId r, c = .exportPlatform taskId w.platform r)
      (w.exportCurrent b s).2 := by
  unfold exportCurrent
  split
  · exact .of_eq rfl
  · exact Export.gives_run_current b w.source w.platform _ w.exportTracker s

/-! ## Runs -/

/-- The platform that the composer was switched to last in some operations. -/
def lastTarget (ops : List (Operation × Site σ)) : Option Platform :=
  (ops.filterMap fun x => x.1.target?).getLast?

theorem lastTarget_concat (ops : List (Operation × Site σ)) (o : Operation) (s : Site σ)
    (p : Platform) :
    (lastTarget (ops ++ [(o, s)])).getD p = o.target?.getD ((lastTarget ops).getD p) := by
  unfold lastTarget
  rw [List.filterMap_append]
  cases ho : o.target? <;> simp [ho]

/-- **Where results come from**: the view is empty, or a search brought what is on display, and
since then only the composer has moved to other platforms. -/
theorem exists_origin (b : Backend σ) {start : Workspace} (hstart : start.results.isEmpty = true)
    (ops : List (Operation × Site σ)) :
    (start.run b ops).results.isEmpty = true ∨
      ∃ before o s after, ops = before ++ (o, s) :: after ∧
        (start.run b before).Brings b o s (start.run b ops).results ∧
        (start.run b ops).platform = (lastTarget after).getD (start.run b before).platform := by
  induction ops using List.reverseRecOn with
  | nil => exact .inl hstart
  | append_singleton ops x ih =>
    obtain ⟨o, s⟩ := x
    rw [run_concat]
    rcases perform_cases b (start.run b ops) o s with
      ⟨hbrings, hplatform⟩ | hdropped | ⟨hkept, hplatform⟩
    · exact .inr ⟨ops, o, s, [], rfl, hbrings, hplatform⟩
    · rw [hdropped]
      exact .inl rfl
    · rw [hkept, hplatform]
      rcases ih with hempty | ⟨before, o', s', after, rfl, hbrings, hmoved⟩
      · exact .inl hempty
      · refine .inr ⟨before, o', s', after ++ [(o, s)], List.append_assoc .., hbrings, ?_⟩
        rw [lastTarget_concat, hmoved]

/-- **Whether the results are of the current platform.**  After any operations in a new view,
whatever the backend answers, results on display were brought by a search on the platform that the
view had at that time.  They are of the current platform just if the composer has not been switched
since then, or was switched back to that platform last; and an export of what is on display asks the
platform that the composer was switched to last, if it was, and the one that was searched
otherwise. -/
theorem results_of_platform_iff (b : Backend σ) (platform : Platform)
    (pageSize searchTracker exportTracker source : Nat) (ops : List (Operation × Site σ)) :
    let start := new platform pageSize searchTracker exportTracker source
    let w := start.run b ops
    w.results.isEmpty = false →
      ∃ before o s after, ops = before ++ (o, s) :: after ∧
        let v := start.run b before
        v.Brings b o s w.results ∧
        (w.platform = v.platform ↔ ∀ p, lastTarget after = some p → p = v.platform) ∧
        ∀ s' : Site σ,
          s'.Gives
            (fun c => ∃ taskId r, c = .exportPlatform taskId ((lastTarget after).getD v.platform) r)
            (w.exportCurrent b s').2 := by
  intro start w hshown
  have hstart : start.results.isEmpty = true := rfl
  rcases exists_origin b hstart ops with
    hempty | ⟨before, o, s, after, hops, hbrings, hplatform⟩
  · rw [hshown] at hempty
    cases hempty
  · refine ⟨before, o, s, after, hops, hbrings, ?_, ?_⟩
    · rw [hplatform]
      cases lastTarget after <;> simp
    · intro s'
      rw [← hplatform]
      exact gives_exportCurrent b w s'

/-! ## A platform that is switched behind the view -/

/-- A backend on which every search finds one asset, and which knows nothing else. -/
def oneMatch : Backend Unit
  | .search _, _ => (⟨[], .ok ⟨1, [default]⟩⟩, ())
  | _, _ => (⟨[], .error (.connectionLost "")⟩, ())

/-- A search, and a composer that is switched to another platform behind the view. -/
def switchedBehind : List (Operation × Site Unit) :=
  let s : Site Unit := ⟨(), .new [newSearchTracker true, newExportTracker true], [0], 5, []⟩
  [(.compose (.setText "port: 22"), s), (.search, s), (.compose (.switchPlatform .quake), s)]

/-- The results that are left on display are those of the platform before. -/
theorem results_of_platform_switched :
    let start := new .fofa 20 0 1 0
    let w := start.run oneMatch switchedBehind
    w.results.isEmpty = false ∧ w.platform = .quake ∧
      ∃ before o s after, switchedBehind = before ++ (o, s) :: after ∧
        (start.run oneMatch before).Brings oneMatch o s w.results ∧
        (w.platform = (start.run oneMatch before).platform ↔
          ∀ p, lastTarget after = some p → p = (start.run oneMatch before).platform) := by
  intro start w
  have hshown : w.results.isEmpty = false := by decide
  obtain ⟨before, o, s, after, hops, hbrings, hiff, -⟩ :=
    results_of_platform_iff oneMatch .fofa 20 0 1 0 switchedBehind hshown
  exact ⟨hshown, rfl, before, o, s, after, hops, hbrings, hiff⟩

/-- An operation of the composer brings no results. -/
theorem not_brings_compose (b : Backend σ) (w : Workspace) (a : Composer.Action) (s : Site σ)
    (page : SearchPage) : ¬ w.Brings b (.compose a) s page := by
  rintro ⟨r, -, hcommands, -⟩
  exact List.cons_ne_nil _ _ (List.append_right_eq_self.1 hcommands.symm)

/-- Results stay on display while the composer goes to another platform. -/
theorem shown_for_other_platform :
    ¬ ∀ (b : Backend Unit) (platform : Platform)
        (pageSize searchTracker exportTracker source : Nat) (ops : List (Operation × Site Unit)),
      let start := new platform pageSize searchTracker exportTracker source
      let w := start.run b ops
      w.results.isEmpty = false →
        ∃ before o s after, ops = before ++ (o, s) :: after ∧
          (start.run b before).Brings b o s w.results ∧
          (start.run b before).platform = w.platform := by
  intro h
  obtain ⟨before, o, s, after, hops, hbrings, hplatform⟩ :=
    h oneMatch .fofa 20 0 1 0 switchedBehind (by decide)
  -- only the search can have brought them, and it was done on the first platform
  rcases before with _ | ⟨x, _ | ⟨y, _ | ⟨z, before⟩⟩⟩
  · obtain ⟨⟨rfl, rfl⟩, -⟩ : (_ ∧ _) ∧ _ := by simpa [switchedBehind] using hops
    exact not_brings_compose _ _ _ _ _ hbrings
  · obtain ⟨rfl, -⟩ : _ ∧ _ := by simpa [switchedBehind] using hops
    exact absurd hplatform (by decide)
  · obtain ⟨rfl, rfl, ⟨rfl, rfl⟩, -⟩ : _ ∧ _ ∧ (_ ∧ _) ∧ _ := by simpa [switchedBehind] using hops
    exact not_brings_compose _ _ _ _ _ hbrings
  · simp [switchedBehind] at hops

end Workspace

end AssetSearch
