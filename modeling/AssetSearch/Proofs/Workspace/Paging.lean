/-
# The page on display and the search that brought it

A search that succeeds brings the results on display, and the view then shows the page and the page
size that were asked for.  A page change that fails leaves the results and the page as they were,
but not the page size: it is taken over before the backend is asked.  From then on the view shows
results of one page size and reports another.

Key definitions: `Search.Answered`, `Workspace.request`, `Workspace.Finds`, `Workspace.FindsNone`,
`Workspace.lastSize`.  Key statements: `changePage_of_error`, `perform_of_finds`,
`perform_of_not_finds`, `exists_search_of_run`, `page_of_search_iff`.
-/
import AssetSearch.Proofs.Workspace.Origin

namespace AssetSearch

variable {σ : Type}

/-! ## Searches and their answers -/

namespace Search

/-- From one site to another one command was given: a search, which the backend answered with some
results. -/
def Answered (b : Backend σ) (s s' : Site σ) (r : SearchRequest) (results : SearchPage) : Prop :=
  s'.commands = s.commands ++ [.search r] ∧ (b (.search r) s.backend).1.outcome = .ok results

/-- Where no search is given, none is answered. -/
theorem not_answered_of_gives {b : Backend σ} {P : Command → Prop} {s s' : Site σ}
    {r : SearchRequest} (h : s.Gives P s') (hr : ¬ P (.search r)) (results : SearchPage) :
    ¬ Answered b s s' r results := by
  rintro ⟨hcommands, -⟩
  obtain ⟨cs, hcs, hall⟩ := h
  obtain rfl : [Command.search r] = cs := List.append_cancel_left (hcommands.symm.trans hcs)
  exact hr (hall _ (List.mem_singleton_self _))

/-- A search is answered with what it gives back. -/
theorem answered_run_iff {b : Backend σ} {source : Nat} {r r' : SearchRequest}
    {tracker : Option Nat} {s : Site σ} {results : SearchPage} :
    Answered b s (run b source r tracker s).2 r' results ↔
      r' = r ∧ (run b source r tracker s).1 = .ok results := by
  cases hquery : Text.blank r.query with
  | true =>
    -- a blank query is refused
    have hrun : run b source r tracker s = (.error (.emptyInput "query"), s) := by
      rw [run, if_pos hquery]
    rw [hrun]
    refine iff_of_false ?_ fun h => by cases h.2
    exact not_answered_of_gives (P := fun _ => False) (.of_eq rfl) id results
  | false =>
    obtain ⟨hcommands, houtcome⟩ := run_of_filled b source tracker s hquery
    rw [Answered, hcommands, houtcome]
    constructor
    · rintro ⟨hsame, hanswer⟩
      obtain rfl : r = r' := by simpa using hsame
      exact ⟨rfl, hanswer⟩
    · rintro ⟨rfl, hanswer⟩
      exact ⟨rfl, hanswer⟩

end Search

namespace Workspace

/-! ## Operations that bring results -/

/-- What a view asks for when it turns to a page. -/
def request (w : Workspace) (page : Nat) : SearchRequest :=
  ⟨w.platform, Text.trim w.composer.text, page, w.pageSize⟩

theorem runSearch_view (b : Backend σ) (w : Workspace) (page : Nat) (s : Site σ) :
    (∃ results, (w.runSearch b page s).1 = .ok results ∧
      (w.runSearch b page s).2.1 = { w with results := results, page := page }) ∨
    (∃ e, (w.runSearch b page s).1 = .error e) ∧ (w.runSearch b page s).2.1 = w := by
  unfold runSearch
  dsimp only
  rcases Search.run b w.source _ (some w.searchTracker) s with ⟨e | results, s'⟩
  · exact .inr ⟨⟨e, rfl⟩, rfl⟩
  · exact .inl ⟨results, rfl, rfl⟩

theorem answered_runSearch_iff {b : Backend σ} {w : Workspace} {page : Nat} {s : Site σ}
    {r : SearchRequest} {results : SearchPage} :
    Search.Answered b s (w.runSearch b page s).2.2 r results ↔
      r = w.request page ∧ (w.runSearch b page s).1 = .ok results := by
  have hrun : Search.Answered b s
        (Search.run b w.source (w.request page) (some w.searchTracker) s).2 r results ↔
      r = w.request page ∧
        (Search.run b w.source (w.request page) (some w.searchTracker) s).1 = .ok results :=
    Search.answered_run_iff
  unfold request at hrun ⊢
  unfold runSearch
  dsimp only
  rcases houtcome : Search.run b w.source _ (some w.searchTracker) s with ⟨e | found, s'⟩
  · rwa [houtcome] at hrun
  · rwa [houtcome] at hrun

/-- A search of the view that is answered sets the results and the page. -/
theorem runSearch_of_answered {b : Backend σ} {w : Workspace} {page : Nat} {s : Site σ}
    {r : SearchRequest} {results : SearchPage}
    (h : Search.Answered b s (w.runSearch b page s).2.2 r results) :
    (w.runSearch b page s).2.1
      = { w with results := results, page := r.page, pageSize := r.pageSize } := by
  obtain ⟨rfl, hok⟩ := answered_runSearch_iff.1 h
  rcases runSearch_view b w page s with ⟨found, hfound, hview⟩ | ⟨⟨e, he⟩, -⟩
  · obtain rfl : found = results := Except.ok.inj (hfound.symm.trans hok)
    exact hview
  · cases he.symm.trans hok

/-- A search of the view that is not answered leaves it alone. -/
theorem runSearch_of_not_answered {b : Backend σ} {w : Workspace} {page : Nat} {s : Site σ}
    (h : ∀ r results, ¬ Search.Answered b s (w.runSearch b page s).2.2 r results) :
    (w.runSearch b page s).2.1 = w := by
  rcases runSearch_view b w page s with ⟨found, hfound, -⟩ | ⟨-, hsame⟩
  · exact absurd (answered_runSearch_iff.2 ⟨rfl, hfound⟩) (h _ found)
  · exact hsame

/-- An operation gives one command, a search, which the backend answers with some results. -/
def Finds (b : Backend σ) (w : Workspace) (o : Operation) (s : Site σ) (r : SearchRequest)
    (results : SearchPage) : Prop :=
  Search.Answered b s (w.act b o.action s).2 r results

/-- The page size that an operation asks for, if it is one. -/
def Operation.size? : Operation → Option Nat
  | changePage _ pageSize => if pageSize = 0 then none else some pageSize
  | _ => none

section Steps

variable {b : Backend σ} {w : Workspace} {o : Operation} {s : Site σ}

/-- **An operation that finds something** shows it, with the page and the page size asked for. -/
theorem perform_of_finds {r : SearchRequest} {results : SearchPage}
    (h : w.Finds b o s r results) :
    w.perform b o s = { w with results := results, page := r.page, pageSize := r.pageSize } := by
  have hidle : ¬ Search.Answered b s s r results :=
    Search.not_answered_of_gives (P := fun _ => False) (.of_eq rfl) id results
  cases o with
  | compose | applyLocation | switchPlatform => exact absurd h hidle
  | search =>
    rw [Finds, act_search] at h
    rw [perform, act_search]
    exact runSearch_of_answered h
  | changePage page pageSize =>
    rw [Finds, act_changePage] at h
    rw [perform, act_changePage]
    by_cases hsize : pageSize = 0
    · rw [if_pos hsize] at h
      exact absurd h hidle
    · rw [if_neg hsize] at h ⊢
      exact runSearch_of_answered h
  | exportCurrent =>
    refine absurd h (Search.not_answered_of_gives (gives_exportCurrent b w s) ?_ results)
    simp
  | cancelExport =>
    refine absurd h (Search.not_answered_of_gives (asks_cancelExport b w s).gives ?_ results)
    simp

/-- **An operation that finds nothing** leaves the results and the page, unless it drops both; a
page size that it asks for is taken over all the same. -/
theorem perform_of_not_finds (h : ∀ r results, ¬ w.Finds b o s r results) :
    ((w.perform b o s).results = w.results ∧ (w.perform b o s).page = w.page ∨
      (w.perform b o s).results = noResults ∧ (w.perform b o s).page = 1) ∧
    (w.perform b o s).pageSize = o.size?.getD w.pageSize := by
  cases o with
  | compose | applyLocation | exportCurrent | cancelExport => exact ⟨.inl ⟨rfl, rfl⟩, rfl⟩
  | switchPlatform => exact ⟨.inr ⟨rfl, rfl⟩, rfl⟩
  | search =>
    simp only [Finds, act_search] at h
    rw [perform, act_search, runSearch_of_not_answered h]
    exact ⟨.inl ⟨rfl, rfl⟩, rfl⟩
  | changePage page pageSize =>
    simp only [Finds, act_changePage] at h
    rw [perform, act_changePage, Operation.size?]
    by_cases hsize : pageSize = 0
    · rw [if_pos hsize, if_pos hsize]
      exact ⟨.inl ⟨rfl, rfl⟩, rfl⟩
    · simp only [if_neg hsize] at h
      rw [if_neg hsize, if_neg hsize, runSearch_of_not_answered h]
      exact ⟨.inl ⟨rfl, rfl⟩, rfl⟩

end Steps

/-! ## Page changes that fail -/

/-- **A page change that fails** leaves everything in the view but the page size, which is the new
one unless that is zero. -/
theorem changePage_of_error {b : Backend σ} {w : Workspace} {page pageSize : Nat} {s : Site σ}
    {e : Failure} (h : (w.changePage b page pageSize s).1 = .error e) :
    (w.changePage b page pageSize s).2.1
      = { w with pageSize := if pageSize = 0 then w.pageSize else pageSize } := by
  unfold changePage at h ⊢
  by_cases hsize : pageSize = 0
  · simp only [if_pos hsize]
  · simp only [if_neg hsize] at h ⊢
    rcases runSearch_view b { w with pageSize := pageSize } (max page 1) s with
      ⟨found, hfound, -⟩ | ⟨-, hsame⟩
    · cases hfound.symm.trans h
    · exact hsame

/-! ## Runs -/

/-- Nothing is found by some operations, one after the other. -/
def FindsNone (b : Backend σ) : Workspace → List (Operation × Site σ) → Prop
  | _, [] => True
  | w, (o, s) :: ops =>
    (∀ r results, ¬ w.Finds b o s r results) ∧ FindsNone b (w.perform b o s) ops

theorem findsNone_concat {b : Backend σ} {w : Workspace} {ops : List (Operation × Site σ)}
    {o : Operation} {s : Site σ} (hops : FindsNone b w ops)
    (h : ∀ r results, ¬ (w.run b ops).Finds b o s r results) :
    FindsNone b w (ops ++ [(o, s)]) := by
  induction ops generalizing w with
  | nil => exact ⟨h, trivial⟩
  | cons x ops ih =>
    obtain ⟨hx, hrest⟩ := hops
    exact ⟨hx, ih hrest h⟩

/-- The page size that some operations have asked for last. -/
def lastSize (ops : List (Operation × Site σ)) : Option Nat :=
  ops.foldl (fun size x => x.1.size?.or size) none

theorem lastSize_concat (ops : List (Operation × Site σ)) (o : Operation) (s : Site σ) :
    lastSize (ops ++ [(o, s)]) = o.size?.or (lastSize ops) :=
  List.foldl_append

/-- **Which search a view shows**: none, and the first page; or the last one that found something,
on its page, but with the page size that was asked for since then. -/
theorem exists_search_of_run (b : Backend σ) {start : Workspace}
    (hstart : start.results = noResults ∧ start.page = 1) (ops : List (Operation × Site σ)) :
    ((start.run b ops).results = noResults ∧ (start.run b ops).page = 1) ∨
      ∃ before o s after r, ops = before ++ (o, s) :: after ∧
        (start.run b before).Finds b o s r (start.run b ops).results ∧
        FindsNone b (start.run b (before ++ [(o, s)])) after ∧
        (start.run b ops).page = r.page ∧
        (start.run b ops).pageSize = (lastSize after).getD r.pageSize := by
  induction ops using List.reverseRecOn with
  | nil => exact .inl hstart
  | append_singleton ops x ih =>
    obtain ⟨o, s⟩ := x
    rw [run_concat]
    by_cases hfinds : ∃ r results, (start.run b ops).Finds b o s r results
    · obtain ⟨r, results, hfinds⟩ := hfinds
      rw [perform_of_finds hfinds]
      exact .inr ⟨ops, o, s, [], r, rfl, hfinds, trivial, rfl, rfl⟩
    · have hnone : ∀ r results, ¬ (start.run b ops).Finds b o s r results :=
        fun r results h => hfinds ⟨r, results, h⟩
      obtain ⟨⟨hresults, hpage⟩ | hdropped, hsize⟩ := perform_of_not_finds hnone
      · rw [hresults, hpage, hsize]
        rcases ih with hempty | ⟨before, o', s', after, r, rfl, hfound, hsince, hshown, hasked⟩
        · exact .inl hempty
        · have hsplit : before ++ (o', s') :: after = before ++ [(o', s')] ++ after :=
            (List.append_cons before (o', s') after)
          refine .inr ⟨before, o', s', after ++ [(o, s)], r, List.append_assoc .., hfound, ?_,
            hshown, ?_⟩
          · refine findsNone_concat hsince ?_
            rw [← run_append, ← hsplit]
            exact hnone
          · rw [hasked, lastSize_concat, Option.getD_or]
      · exact .inl hdropped

/-- **What a failed page change leaves behind.**  It leaves everything in the view as it was but the
page size, and this one too just if the size asked for is zero or the one in force.  So over every
run of a new view, whatever the backend answers, nothing is on display and the page is the first
one, or the results and the page are those of the last search that found something; and the page
size is that of this search just if no page change has failed since, or the last one asked for the
same size. -/
theorem page_of_search_iff (b : Backend σ) :
    (∀ (w : Workspace) (page pageSize : Nat) (s : Site σ) (e : Failure),
      (w.changePage b page pageSize s).1 = .error e →
        let w' := (w.changePage b page pageSize s).2.1
        w' = { w with pageSize := w'.pageSize } ∧
          (w'.pageSize = w.pageSize ↔ pageSize = 0 ∨ pageSize = w.pageSize)) ∧
    ∀ (platform : Platform) (pageSize searchTracker exportTracker source : Nat)
      (ops : List (Operation × Site σ)),
      let start := new platform pageSize searchTracker exportTracker source
      let w := start.run b ops
      (w.results = noResults ∧ w.page = 1) ∨
        ∃ before o s after r, ops = before ++ (o, s) :: after ∧
          (start.run b before).Finds b o s r w.results ∧
          FindsNone b (start.run b (before ++ [(o, s)])) after ∧
          w.page = r.page ∧
          (w.pageSize = r.pageSize ↔ ∀ size, lastSize after = some size → size = r.pageSize) := by
  constructor
  · intro w page pageSize s e h w'
    have hw' : w' = { w with pageSize := if pageSize = 0 then w.pageSize else pageSize } :=
      changePage_of_error h
    rw [hw']
    refine ⟨rfl, ?_⟩
    by_cases hsize : pageSize = 0 <;> simp [hsize]
  · intro platform pageSize searchTracker exportTracker source ops start w
    have hstart : start.results = noResults ∧ start.page = 1 := ⟨rfl, rfl⟩
    rcases exists_search_of_run b hstart ops with
      hempty | ⟨before, o, s, after, r, hops, hfound, hsince, hpage, hsize⟩
    · exact .inl hempty
    · refine .inr ⟨before, o, s, after, r, hops, hfound, hsince, hpage, ?_⟩
      show (start.run b ops).pageSize = r.pageSize ↔ _
      rw [hsize]
      cases lastSize after <;> simp

/-! ## A connection that is lost -/

/-- A backend on which every search finds one asset while it can be reached. -/
def reachable : Backend Bool
  | .search _, true => (⟨[], .ok ⟨1, [default]⟩⟩, true)
  | _, up => (⟨[], .error (.connectionLost "")⟩, up)

/-- A program with a view of queries, and whether its backend can be reached. -/
def siteOf (up : Bool) : Site Bool :=
  ⟨up, .new [newSearchTracker true, newExportTracker true], [0], 5, []⟩

/-- A view that shows what a search has found. -/
def searched : Workspace :=
  (new .fofa 20 0 1 0).run reachable
    [(.compose (.setText "port=\"22\""), siteOf true), (.search, siteOf true)]

/-- A page change on a lost connection, to pages of another size. -/
theorem page_of_search_lost :
    let w := (searched.changePage reachable 2 50 (siteOf false)).2.1
    (searched.changePage reachable 2 50 (siteOf false)).1 = .error (.connectionLost "") ∧
      w = { searched with pageSize := w.pageSize } ∧ w.pageSize ≠ searched.pageSize := by
  intro w
  have hlost : (searched.changePage reachable 2 50 (siteOf false)).1
      = .error (.connectionLost "") :=
    rfl
  obtain ⟨hview, hsize⟩ := (page_of_search_iff reachable).1 searched 2 50 (siteOf false) _ hlost
  refine ⟨hlost, hview, ?_⟩
  show w.pageSize ≠ searched.pageSize
  rw [Ne, hsize]
  decide

/-- The page size that a failed page change has asked for stays. -/
theorem resized_by_failure :
    ¬ ∀ (b : Backend Bool) (w : Workspace) (page pageSize : Nat) (s : Site Bool) (e : Failure),
      (w.changePage b page pageSize s).1 = .error e →
        let w' := (w.changePage b page pageSize s).2.1
        w'.results = w.results ∧ w'.page = w.page ∧ w'.pageSize = w.pageSize := by
  intro h
  have hsame := (h reachable searched 2 50 (siteOf false) (.connectionLost "") rfl).2.2
  exact absurd hsame (by decide)

end Workspace

end AssetSearch
