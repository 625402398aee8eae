/-
# Operations with guards

All operations that check what they are given before they turn to the backend.  Each of them is
refused or gives commands that fit it.  So an operation that fails for a local reason has had no
effect at all, unless the backend itself reports such a failure.

Key definitions: `Request`, `Request.run`, `Request.Fits`.  Key statements: `Request.asks_run`,
`Request.refused_without_effect`.
-/
import AssetSearch.Proofs.Backend.Asking

namespace AssetSearch

variable {σ : Type}

/-- An operation with guards, with everything that it is given: a search, an export or the export of
a past query on a tracker; what is done to keys; a check or a translation of a query; settings to be
saved; what is done in a query view, and in a view of past queries. -/
inductive Request where
  | search (source : Nat) (r : SearchRequest) (tracker : Option Nat)
  | exportQuery (source : Nat) (scope : ExportScope) (platform : Platform) (r : ExportRequest)
    (tracker : Nat)
  | replay (source : Nat) (record : HistoryRecord) (tracker : Nat)
  | addKey (platform : Platform) (key : String) (email : Option String)
  | addKeys (platform : Platform) (text : String) (email : Option String)
  | deleteKey (platform : Platform) (key : String) (email : Option String)
  | validateKey (platform : Platform) (key : String) (email : Option String)
  | validateQuery (query : String) (platform : Platform)
  | convert (query : String) (platform target : Platform)
  | convertToAll (query : String) (platform : Platform)
  | saveSettings (store : ThemeStore) (settings : Settings)
  | searchView (w : Workspace)
  | changePage (w : Workspace) (page pageSize : Nat)
  | exportView (w : Workspace)
  | cancelExport (w : Workspace)
  | exportRecord (v : Browser) (id : String)
  | writeHistory (v : Browser) (directory : String)

namespace Request

/-- What an operation gives back. -/
def Value : Request → Type
  | search .. | searchView _ | changePage .. => SearchPage
  | exportQuery .. | replay .. | exportView _ | exportRecord .. => ExportResult
  | addKey .. | deleteKey .. | validateQuery .. | cancelExport _ => Unit
  | addKeys .. => BatchOutcome
  | validateKey .. => KeyVerdict
  | convert .. | convertToAll .. => List Translation
  | saveSettings .. => Settings
  | writeHistory .. => String

/-- Carries out an operation: its outcome, and the site behind it. -/
def run (b : Backend σ) (s : Site σ) : (q : Request) → Outcome q.Value × Site σ
  | search source r tracker => Search.run b source r tracker s
  | exportQuery source scope platform r tracker => Export.run b source scope platform r tracker s
  | replay source record tracker => Export.replay b source record tracker s
  | addKey platform key email => Keys.add b platform key email s
  | addKeys platform text email => Keys.addBatch b platform text email s
  | deleteKey platform key email => Keys.delete b platform key email s
  | validateKey platform key email => Keys.validate b platform key email s
  | validateQuery query platform => Translation.validate b query platform s
  | convert query platform target => Translation.convert b query platform target s
  | convertToAll query platform => Translation.convertToAll b query platform s
  | saveSettings store settings => Settings.save b store settings s
  | searchView w => ((w.search b s).1, (w.search b s).2.2)
  | changePage w page pageSize =>
    ((w.changePage b page pageSize s).1, (w.changePage b page pageSize s).2.2)
  | exportView w => w.exportCurrent b s
  | cancelExport w => w.cancelExport b s
  | exportRecord v id => v.exportRecord b id s
  | writeHistory v directory => v.writeTo b directory s

/-- What the commands of an operation keep to, while a theme is in use. -/
def Fits (theme : Theme) : Request → Command → Prop
  | searchView w, c => ∃ query, c = .search ⟨w.platform, query, 1, w.pageSize⟩ ∧ Text.Filled query
  | changePage .., c => ∃ r, c = .search r ∧ r.Complete
  | exportView _, c => c.Exports
  | cancelExport _, c => ∃ taskId, c = .cancelExport taskId
  | saveSettings store _, c => c.WellFormed store.theme
  | _, c => c.WellFormed theme

/-- **Every operation is refused or gives commands that fit it.** -/
theorem asks_run (b : Backend σ) (theme : Theme) (s : Site σ) (q : Request) :
    Asks b (q.Fits theme) s (q.run b s).1 (q.run b s).2 := by
  cases q with
  | search source r tracker =>
    refine (Search.asks_run b source r tracker s).imp ?_
    rintro c ⟨rfl, hquery⟩
    exact hquery
  | exportQuery source scope platform r tracker =>
    exact (Export.asks_run b source scope platform r tracker s).imp fun _ hc => hc.wellFormed theme
  | replay source record tracker =>
    exact (Export.asks_replay b source record tracker s).imp fun _ hc => hc.wellFormed theme
  | addKey platform key email => exact Keys.asks_add b theme platform email s key
  | addKeys platform text email => exact Keys.asks_addBatch b theme platform email s text
  | deleteKey platform key email => exact Keys.asks_delete b theme platform email s key
  | validateKey platform key email => exact Keys.asks_validate b theme platform email s key
  | validateQuery query platform => exact Translation.asks_validate b theme query platform s
  | convert query platform target => exact Translation.asks_convert b theme query platform target s
  | convertToAll query platform => exact Translation.asks_convertToAll b theme query platform s
  | saveSettings store settings => exact Settings.asks_save b store settings s
  | searchView w =>
    dsimp only [run]
    exact Workspace.asks_search b w s
  | changePage w page pageSize =>
    dsimp only [run]
    exact Workspace.asks_changePage b w s page pageSize
  | exportView w => exact Workspace.asks_exportCurrent b w s
  | cancelExport w => exact Workspace.asks_cancelExport b w s
  | exportRecord v id =>
    exact (Browser.asks_exportRecord b v s id).imp fun _ hc => hc.wellFormed theme
  | writeHistory v directory =>
    refine (Browser.asks_writeTo b v s directory).imp ?_
    rintro c rfl
    trivial

/-! ## Refusals -/

/-- **Refusals have no effect.**  With a backend that never reports a failure of the local kinds, an
operation that fails for a local reason leaves the site as it was: the backend and the journal of
the commands it was given, the trackers with their revisions, the listeners of the bus, and the
stamps for task ids.  And an operation gives no command only if it is refused in this way. -/
theorem refused_without_effect (b : Backend σ)
    (hb : ∀ c x e, (b c x).1.outcome = .error e → e.isLocalGuard = false) (q : Request)
    (s : Site σ) :
    ((∃ e, (q.run b s).1 = .error e ∧ e.isLocalGuard = true) → (q.run b s).2 = s) ∧
      ((q.run b s).2.journal = s.journal →
        ∃ e, (q.run b s).1 = .error e ∧ e.isLocalGuard = true) := by
  have hasks := asks_run b .default s q
  generalize (q.run b s).1 = o at hasks ⊢
  generalize (q.run b s).2 = s' at hasks ⊢
  cases hasks with
  | refused he => exact ⟨fun _ => rfl, fun _ => ⟨_, rfl, he⟩⟩
  | asked _ hsome hreports =>
    constructor
    · rintro ⟨e, rfl, he⟩
      obtain ⟨c, x, hc⟩ := hreports e rfl he
      rw [hb c x e hc] at he
      cases he
    · intro hjournal
      exact absurd (congrArg (List.map Prod.fst) hjournal) hsome

/-- A backend that counts the commands it is given and answers none of them. -/
def silent : Backend Nat :=
  fun _ n => (⟨[], .error (.connectionLost "")⟩, n + 1)

/-- Two keys for an account without an email, and a search for nothing but blanks. -/
theorem refused_without_effect_blank :
    let s : Site Nat := ⟨0, .new [.new "Search" true], [7], 5, []⟩
    let keys := addKeys .fofa "one\ntwo" (some " ")
    let blanks := search 0 ⟨.quake, " \t", 1, 20⟩ (some 0)
    (∀ c x e, (silent c x).1.outcome = .error e → e.isLocalGuard = false) ∧
      (keys.run silent s).2 = s ∧ (blanks.run silent s).2 = s := by
  intro s keys blanks
  have hsilent : ∀ c x e, (silent c x).1.outcome = .error e → e.isLocalGuard = false := by
    intro c x e h
    obtain rfl : Failure.connectionLost "" = e := Except.error.inj h
    rfl
  have hparsed : Keys.parseBatch "one\ntwo" = ["one", "two"] := by decide
  have hemail : Keys.checkedEmail .fofa (some " ")
      = .error (.invalidField "email" "FOFA keys require the account email") := by cbv
  have hkeys : (keys.run silent s).1
      = .error (.invalidField "email" "FOFA keys require the account email") := by
    dsimp only [keys, run]
    simp only [Keys.addBatch, hparsed, hemail]
    rfl
  have hblanks : (blanks.run silent s).1 = .error (.emptyInput "query") := by
    dsimp only [blanks, run, Search.run]
    rw [if_pos (by decide)]
    rfl
  exact ⟨hsilent, (refused_without_effect silent hsilent keys s).1 ⟨_, hkeys, rfl⟩,
    (refused_without_effect silent hsilent blanks s).1 ⟨_, hblanks, rfl⟩⟩

end Request

end AssetSearch
