/-
# What reaches the backend

Runs of the whole program: query views and views of past queries are opened and used, searches and
exports are asked for directly, keys, translations and settings are managed, and the theme changes.
In between, the backend, the trackers and the clock may do anything.  A view of queries never has a
page size of zero, so every command that is given in such a run makes sense.

Key definitions: `Workspace.Action`, `Program`, `Program.Action`, `Program.step`, `Program.Proper`.
Key statements: `Workspace.gives_act`, `Program.Sound.step`, `Program.proper_commands`.
-/
import AssetSearch.Proofs.Backend.Requests
import AssetSearch.Proofs.History.InStep

namespace AssetSearch

variable {σ : Type}

/-! ## Query views -/

namespace Command

/-- What a command of a query view keeps to. -/
def FromView (theme : Theme) (c : Command) : Prop :=
  c.WellFormed theme ∧ ∀ r, c = .search r → r.Complete

theorem fromView_search {r : SearchRequest} (h : r.Complete) (theme : Theme) :
    FromView theme (.search r) := by
  refine ⟨?_, ?_⟩
  · cases hblank : Text.blank r.query with
    | false => exact hblank
    | true =>
      -- a blank text begins with a blank, if with anything
      obtain ⟨c, hc⟩ : ∃ c, r.query.toList.head? = some c := by
        cases hchars : r.query.toList with
        | nil => exact absurd (String.toList_eq_nil_iff.1 hchars) h.query.nonempty
        | cons c rest => exact ⟨c, rfl⟩
      have hall := (Text.blank_iff _).1 hblank c (List.mem_of_head? hc)
      rw [h.query.start c hc] at hall
      cases hall
  · rintro _ ⟨⟩
    exact h

theorem Exports.fromView {c : Command} (h : c.Exports) (theme : Theme) : c.FromView theme := by
  refine ⟨h.wellFormed theme, ?_⟩
  rintro r rfl
  cases h

end Command

namespace Workspace

/-- What is done in a query view. -/
inductive Action where
  | edit (f : Composer → Composer)
  | applyLocation (location : Query.Location) (append : Bool)
  | switchPlatform (platform : Platform)
  | search
  | changePage (page pageSize : Nat)
  | exportCurrent
  | cancelExport

/-- One operation. -/
def act (b : Backend σ) (a : Action) (w : Workspace) (s : Site σ) : Workspace × Site σ :=
  match a with
  | .edit f => (w.edit f, s)
  | .applyLocation location append => ((w.applyLocation location append).2, s)
  | .switchPlatform platform => (w.switchPlatform platform, s)
  | .search => (w.search b s).2
  | .changePage page pageSize => (w.changePage b page pageSize s).2
  | .exportCurrent => (w, (w.exportCurrent b s).2)
  | .cancelExport => (w, (w.cancelExport b s).2)

variable (b : Backend σ) (w : Workspace) (s : Site σ)

theorem pageSize_runSearch (page : Nat) : (w.runSearch b page s).2.1.pageSize = w.pageSize := by
  unfold runSearch
  dsimp only
  split <;> rfl

/-- A view keeps its page size, or takes a new one that is positive. -/
theorem pageSize_act (a : Action) (hsize : 1 ≤ w.pageSize) : 1 ≤ (w.act b a s).1.pageSize := by
  cases a with
  | edit | applyLocation | switchPlatform | exportCurrent | cancelExport => exact hsize
  | search =>
    dsimp only [act]
    rw [search, pageSize_runSearch]
    exact hsize
  | changePage page pageSize =>
    dsimp only [act]
    unfold changePage
    split
    · exact hsize
    · next hpositive =>
      rw [pageSize_runSearch]
      exact Nat.one_le_iff_ne_zero.2 hpositive

/-- **One operation in a view gives commands of a view only.** -/
theorem gives_act (theme : Theme) (a : Action) (hsize : 1 ≤ w.pageSize) :
    s.Gives (Command.FromView theme) (w.act b a s).2 := by
  cases a with
  | edit | applyLocation | switchPlatform => exact .of_eq rfl
  | search =>
    dsimp only [act]
    refine (asks_search b w s).gives.imp ?_
    rintro c ⟨query, rfl, hquery⟩
    exact Command.fromView_search ⟨hquery, Nat.le_refl 1, hsize⟩ theme
  | changePage page pageSize =>
    dsimp only [act]
    refine (asks_changePage b w s page pageSize).gives.imp ?_
    rintro c ⟨r, rfl, hr⟩
    exact Command.fromView_search hr theme
  | exportCurrent => exact (asks_exportCurrent b w s).gives.imp fun _ hc => hc.fromView theme
  | cancelExport =>
    refine (asks_cancelExport b w s).gives.imp ?_
    rintro c ⟨taskId, rfl⟩
    exact ⟨trivial, fun r hr => by cases hr⟩

end Workspace

/-! ## Views of past queries -/

namespace Browser

variable (b : Backend σ) (theme : Theme) (v : Browser) (s : Site σ)

theorem commands_reload : (v.reload b s).2.2.commands = s.commands ++ [.history] := by
  rw [← Site.commands_invoke b]
  unfold reload
  split <;> simp_all

theorem commands_refresh (change : List HistoryRecord → List HistoryRecord) :
    (v.refresh b change s).2.commands = s.commands ++ [.history] := by
  rw [← commands_reload b v s]
  unfold refresh
  split <;> simp_all

/-- A change of the list in the backend, with the reload behind it. -/
theorem gives_refresh {c : Command} (hc : c.WellFormed theme)
    (change : List HistoryRecord → List HistoryRecord) :
    s.Gives (Command.WellFormed theme) (v.refresh b change (s.invoke b c).2).2 := by
  refine (Site.Gives.invoke b hc s).trans (.of_concat (commands_refresh b v _ change) ?_)
  trivial

theorem gives_act (a : Action) : s.Gives (Command.WellFormed theme) (v.act b a s).2 := by
  cases a with
  | reload => exact .of_concat (commands_reload b v s) trivial
  | delete id =>
    show s.Gives _ (v.delete b id s).2.2
    cases houtcome : (b (.deleteHistory id) s.backend).1.outcome with
    | error e =>
      rw [delete_of_error houtcome]
      exact .invoke b trivial s
    | ok =>
      rw [delete_of_ok houtcome]
      exact gives_refresh b theme v s (c := .deleteHistory id) trivial _
  | clear =>
    show s.Gives _ (v.clear b s).2.2
    cases houtcome : (b .clearHistory s.backend).1.outcome with
    | error e =>
      rw [clear_of_error houtcome]
      exact .invoke b trivial s
    | ok =>
      rw [clear_of_ok houtcome]
      exact gives_refresh b theme v s (c := .clearHistory) trivial _
  | setFilter => exact .of_eq rfl

end Browser

/-! ## The keys that the backend lists -/

namespace Keys

variable (b : Backend σ) (theme : Theme) (platform : Platform)

theorem gives_checkEach (entries : List KeyEntry) (s : Site σ) :
    s.Gives (Command.WellFormed theme) (checkEach b platform entries s).2 := by
  induction entries generalizing s with
  | nil => exact .of_eq rfl
  | cons entry rest ih =>
    exact (asks_validate b theme platform entry.email s entry.key).gives.trans (ih _)

theorem gives_validateAll (s : Site σ) :
    s.Gives (Command.WellFormed theme) (validateAll b platform s).2 := by
  have hlist : s.Gives (Command.WellFormed theme) (list b platform s).2 :=
    .invoke b (c := .keys platform) trivial s
  unfold validateAll
  rcases houtcome : list b platform s with ⟨e | entries, s'⟩
  · rwa [houtcome] at hlist
  · rw [houtcome] at hlist
    exact hlist.trans (gives_checkEach b theme platform entries s')

end Keys

/-! ## The program -/

/-- The requests that need neither a view nor the theme in use. -/
def Request.Direct : Request → Prop
  | saveSettings .. | searchView _ | changePage .. | exportView _ | cancelExport _
  | exportRecord .. | writeHistory .. => False
  | _ => True

/-- The program: what its operations share, the views that are open, and the theme in use. -/
structure Program (σ : Type) where
  site : Site σ
  views : List Workspace
  browsers : List Browser
  themes : ThemeStore

namespace Program

/-- A program without views. -/
def start (s : Site σ) (themes : ThemeStore) : Program σ :=
  ⟨s, [], [], themes⟩

/-- What may happen in the program. -/
inductive Action (σ : Type) where
  /-- The backend, the trackers, the sources of task ids and the clock change in any way. -/
  | meanwhile (backend : σ) (board : Progress.Board) (stamps : List Nat) (clock : Int)
  | openView (platform : Platform) (pageSize searchTracker exportTracker source : Nat)
  | view (i : Nat) (a : Workspace.Action)
  | openBrowser (tracker source : Nat)
  | browse (i : Nat) (a : Browser.Action)
  | exportRecord (i : Nat) (id : String)
  | writeHistory (i : Nat) (directory : String)
  | ask (q : Request) (direct : q.Direct)
  | cancelExport (taskId : String)
  | listKeys (platform : Platform)
  | validateKeys (platform : Platform)
  | supportedPlatforms
  | loadSettings
  | saveSettings (settings : Settings)
  | setTheme (theme : Theme) (disk : Theme.Disk) (mishap : Option Theme.Mishap) (tag : String)
  | toggleTheme (disk : Theme.Disk) (mishap : Option Theme.Mishap) (tag : String)

/-- Uses the query view with a number, if there is one. -/
def onView (x : Program σ) (i : Nat) (f : Workspace → Site σ → Workspace × Site σ) : Program σ :=
  match x.views[i]? with
  | none => x
  | some w => { x with site := (f w x.site).2, views := x.views.set i (f w x.site).1 }

/-- Uses the view of past queries with a number, if there is one. -/
def onBrowser (x : Program σ) (i : Nat) (f : Browser → Site σ → Browser × Site σ) : Program σ :=
  match x.browsers[i]? with
  | none => x
  | some v => { x with site := (f v x.site).2, browsers := x.browsers.set i (f v x.site).1 }

/-- One step. -/
def step (b : Backend σ) (x : Program σ) : Action σ → Program σ
  | .meanwhile backend board stamps clock =>
    { x with site := ⟨backend, board, stamps, clock, x.site.journal⟩ }
  | .openView platform pageSize searchTracker exportTracker source =>
    { x with views := x.views ++ [.new platform pageSize searchTracker exportTracker source] }
  | .view i a => x.onView i fun w s => w.act b a s
  | .openBrowser tracker source => { x with browsers := x.browsers ++ [.new tracker source] }
  | .browse i a => x.onBrowser i fun v s => v.act b a s
  | .exportRecord i id => x.onBrowser i fun v s => (v, (v.exportRecord b id s).2)
  | .writeHistory i directory => x.onBrowser i fun v s => (v, (v.writeTo b directory s).2)
  | .ask q _ => { x with site := (q.run b x.site).2 }
  | .cancelExport taskId => { x with site := (Export.cancel b taskId x.site).2 }
  | .listKeys platform => { x with site := (Keys.list b platform x.site).2 }
  | .validateKeys platform => { x with site := (Keys.validateAll b platform x.site).2 }
  | .supportedPlatforms => { x with site := (Translation.supported b x.site).2 }
  | .loadSettings => { x with site := (Settings.load b x.site).2 }
  | .saveSettings settings => { x with site := (Settings.save b x.themes settings x.site).2 }
  | .setTheme theme disk mishap tag => { x with themes := (x.themes.set theme disk mishap tag).2.1 }
  | .toggleTheme disk mishap tag => { x with themes := (x.themes.toggle disk mishap tag).2.1 }

/-- Some steps, one after the other. -/
def run (b : Backend σ) (as : List (Action σ)) (x : Program σ) : Program σ :=
  as.foldl (step b) x

/-- A command that an action gives makes sense, with the theme in use at the time; a search in a
query view is complete. -/
structure Proper (x : Program σ) (a : Action σ) (c : Command) : Prop where
  wellFormed : c.WellFormed x.themes.theme
  ofView : ∀ i o, a = .view i o → ∀ r, c = .search r → r.Complete

/-! ## One step -/

/-- Every query view has a page size. -/
def Sound (x : Program σ) : Prop :=
  ∀ w ∈ x.views, 1 ≤ w.pageSize

theorem sound_start (s : Site σ) (themes : ThemeStore) : (start s themes).Sound :=
  fun _ hw => by cases hw

theorem views_onBrowser (x : Program σ) (i : Nat) (f : Browser → Site σ → Browser × Site σ) :
    (x.onBrowser i f).views = x.views := by
  unfold onBrowser
  split <;> rfl

/-- **The views keep their page sizes.** -/
theorem Sound.step {x : Program σ} (hx : x.Sound) (b : Backend σ) (a : Action σ) :
    (x.step b a).Sound := by
  cases a with
  | openView platform pageSize searchTracker exportTracker source =>
    intro w hw
    rcases List.mem_append.1 hw with hold | hnew
    · exact hx w hold
    · obtain rfl := List.mem_singleton.1 hnew
      exact Nat.le_max_right pageSize 1
  | view i a =>
    dsimp only [Program.step]
    unfold onView
    split
    · exact hx
    · next w hw =>
      intro w' hw'
      rcases List.mem_or_eq_of_mem_set hw' with hold | rfl
      · exact hx w' hold
      · exact Workspace.pageSize_act b w x.site a (hx w (List.mem_of_getElem? hw))
  | browse | exportRecord | writeHistory =>
    intro w hw
    dsimp only [Program.step] at hw
    rw [views_onBrowser] at hw
    exact hx w hw
  | _ => exact hx

/-- A query view gives commands of a view. -/
theorem gives_onView {x : Program σ} (hx : x.Sound) (b : Backend σ) (theme : Theme) (i : Nat)
    (a : Workspace.Action) :
    x.site.Gives (Command.FromView theme) (x.onView i fun w s => w.act b a s).site := by
  unfold onView
  split
  · exact .of_eq rfl
  · next w hw => exact Workspace.gives_act b w x.site theme a (hx w (List.mem_of_getElem? hw))

theorem gives_onBrowser {P : Command → Prop} (x : Program σ) (i : Nat)
    {f : Browser → Site σ → Browser × Site σ} (hf : ∀ v, x.site.Gives P (f v x.site).2) :
    x.site.Gives P (x.onBrowser i f).site := by
  unfold onBrowser
  split
  · exact .of_eq rfl
  · exact hf _

/-- What is asked for directly makes sense. -/
theorem gives_ask (b : Backend σ) (theme : Theme) (s : Site σ) {q : Request} (hq : q.Direct) :
    s.Gives (Command.WellFormed theme) (q.run b s).2 := by
  refine (q.asks_run b theme s).gives.imp fun c hc => ?_
  cases q with
  | saveSettings | searchView | changePage | exportView | cancelExport | exportRecord
  | writeHistory => cases hq
  | _ => exact hc

/-- What is not done in a query view gives commands that make sense. -/
theorem gives_other (b : Backend σ) (x : Program σ) {a : Action σ} (ha : ∀ i o, a ≠ .view i o) :
    x.site.Gives (Command.WellFormed x.themes.theme) (x.step b a).site := by
  cases a with
  | view i o => exact absurd rfl (ha i o)
  | meanwhile | openView | openBrowser | setTheme | toggleTheme => exact .of_eq rfl
  | browse i o => exact gives_onBrowser x i fun v => v.gives_act b _ x.site o
  | exportRecord i id =>
    refine gives_onBrowser x i fun v => ?_
    exact (v.asks_exportRecord b x.site id).gives.imp fun _ hc => hc.wellFormed _
  | writeHistory i directory =>
    refine gives_onBrowser x i fun v => ?_
    refine (v.asks_writeTo b x.site directory).gives.imp ?_
    rintro c rfl
    trivial
  | ask q hq => exact gives_ask b _ x.site hq
  | cancelExport taskId => exact .invoke b (c := .cancelExport taskId) trivial x.site
  | listKeys platform => exact .invoke b (c := .keys platform) trivial x.site
  | validateKeys platform => exact Keys.gives_validateAll b _ platform x.site
  | supportedPlatforms => exact .invoke b (c := .supportedPlatforms) trivial x.site
  | loadSettings => exact .invoke b (c := .settings) trivial x.site
  | saveSettings settings => exact (Settings.asks_save b x.themes settings x.site).gives

/-- **One step gives proper commands only.** -/
theorem gives_step {x : Program σ} (hx : x.Sound) (b : Backend σ) (a : Action σ) :
    x.site.Gives (x.Proper a) (x.step b a).site := by
  by_cases hview : ∃ i o, a = .view i o
  · obtain ⟨i, o, rfl⟩ := hview
    refine (gives_onView hx b x.themes.theme i o).imp fun c hc => ⟨hc.1, ?_⟩
    intro _ _ _
    exact hc.2
  · have hother : ∀ i o, a ≠ .view i o := fun i o heq => hview ⟨i, o, heq⟩
    refine (gives_other b x hother).imp fun c hc => ⟨hc, ?_⟩
    intro i o heq
    exact absurd heq (hother i o)

/-! ## Runs -/

theorem Sound.run {x : Program σ} (hx : x.Sound) (b : Backend σ) (as : List (Action σ)) :
    (x.run b as).Sound := by
  induction as generalizing x with
  | nil => exact hx
  | cons a as ih => exact ih (hx.step b a)

/-- **Only proper commands reach the backend.**  Whatever happened before, in a program that began
without views, an action adds commands to those given so far, and each of them makes sense: searches
have a query, and those of query views a trimmed one, a page and a page size; exports have a query,
pages and a page size; keys are filled and go with an email just where the platform needs it;
checked and translated queries are filled; and settings are saved with a page size and the theme in
use. -/
theorem proper_commands (b : Backend σ) (s : Site σ) (themes : ThemeStore)
    (before : List (Action σ)) (a : Action σ) :
    let x := (start s themes).run b before
    ∃ cs, (x.step b a).site.commands = x.site.commands ++ cs ∧ ∀ c ∈ cs, x.Proper a c :=
  gives_step ((sound_start s themes).run b before) b a

end Program

end AssetSearch
