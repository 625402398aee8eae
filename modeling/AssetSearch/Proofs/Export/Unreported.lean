/-
# What is shown of tasks without events

A search and the export of all platforms get no events from the backend.  Each shows its task
itself: it is running until the backend answers, and then one more update tells how it ended.

Key definitions: `Script.call`, `lastUpdate`, `Search.script`, `Search.inFlight`,
`Export.scriptAll`, `Export.inFlightAll`.  Key statement: `unreported_calls`.
-/
import AssetSearch.Proofs.Export.Tracked
import AssetSearch.Proofs.Progress.Scripts
import AssetSearch.Search

namespace AssetSearch

open Progress

variable {σ : Type}

/-! ## Calls that keep to a script -/

/-- Gives a command and shows it on a tracker. -/
def Progress.Script.call {c : Command} (script : Script c.Result) (b : Backend σ) (i : Nat)
    (s : Site σ) : Outcome c.Result × Site σ :=
  let (outcome, s) := (s.update i script.announce).invoke b c
  (outcome, s.update i (script.ending outcome))

/-- The call goes through the moments of the script, and the backend is asked when all notes are
made; so a script that is kept tells the display at the end. -/
theorem Progress.Script.call_shown {c : Command} {script : Script c.Result} (b : Backend σ)
    {i : Nat} {s : Site σ} {flight : Snapshot} {last : Outcome c.Result → Snapshot}
    (hkept : script.Kept s.board i flight last) :
    let answer := (b c s.backend).1
    let result := script.call b i s
    result.2.board = (script.after s.board i (script.moments answer.events)).update i
      (script.ending answer.outcome) ∧
    result.2.journal = s.journal ++ [(c, script.after s.board i (script.moments []))] ∧
    (result.2.tracker i).snapshot = last answer.outcome ∧
    result.1 = answer.outcome := by
  intro answer result
  have hboard : result.2.board = (script.after s.board i (script.moments answer.events)).update i
      (script.ending answer.outcome) := by
    rw [Script.after_moments]
    rfl
  refine ⟨hboard, ?_, ?_, rfl⟩
  · rw [Script.after_moments]
    rfl
  · rw [Site.tracker, hboard]
    exact hkept.ended _ (script.note?_moments _) _

/-- The display after the last update of a call: one revision and one line more, and a status that
tells how the call ended.  `success` gives the text and the line of a success. -/
def lastUpdate {α : Type} (flight : Snapshot) (success : α → String × String)
    (failedPercent : Double) : Outcome α → Snapshot
  | .ok a =>
    { flight with
      status := .success
      percent := .ofWord 100
      statusText := (success a).1
      logs := flight.logs ++ [⟨(success a).2, .success⟩]
      revision := flight.revision + 1 }
  | .error e =>
    { flight with
      status := .error
      percent := failedPercent
      statusText := "Failed: " ++ e.userMessage
      logs := flight.logs ++ [⟨"Failed: " ++ e.userMessage, .error⟩]
      revision := flight.revision + 1 }

/-! ## Searches -/

namespace Search

def script (taskId : String) (r : SearchRequest) : Script SearchPage where
  taskId := taskId
  statusText := "Preparing search..."
  notes :=
    [.progress (percent 30) "Preparing search...",
      .line s!"Searching {r.platform.displayName}: {r.query}" .info,
      .progress (percent 60) s!"Querying {r.platform.displayName}..."]
  ending := conclude

/-- The display while the backend searches. -/
def inFlight (before : Snapshot) (taskId : String) (r : SearchRequest) : Snapshot where
  isOpen := true
  title := before.title
  taskId := some taskId
  status := .running
  percent := .ofWord 60
  statusText := s!"Querying {r.platform.displayName}..."
  logs := [⟨s!"Searching {r.platform.displayName}: {r.query}", .info⟩]
  summary := []
  cancellable := before.cancellable
  revision := before.revision + 4

theorem foldl_script (before : Snapshot) (taskId : String) (r : SearchRequest) :
    (script taskId r).notes.foldl Note.on
      (before.begin (script taskId r).taskId (script taskId r).statusText).bump
      = inFlight before taskId r := by
  simp only [script, inFlight, List.foldl_cons, List.foldl_nil, Note.on, Snapshot.begin,
    Snapshot.bump, Snapshot.setProgress, Snapshot.append, List.nil_append, percent]

/-- The text and the line of a search that has found a page. -/
def success (page : SearchPage) : String × String :=
  (s!"Found {page.total} results",
    s!"Search finished: {page.total} total, {page.results.length} on this page")

theorem snapshot_conclude (outcome : Outcome SearchPage) (t : Tracker) :
    (conclude outcome t).snapshot = lastUpdate t.snapshot success (.ofWord 100) outcome := by
  cases outcome <;>
    simp only [conclude, Tracker.snapshot_finish, Snapshot.finish, Snapshot.bump,
      Snapshot.failureText, lastUpdate, success, percent, Option.toList_some]

theorem kept_script {board : Board} {i : Nat} {w : Option Timer} (hi : i < board.trackers.length)
    (hdetached : ∀ l ∈ board.bus.listeners, l.handler ≠ i) (hawaits : (board.tracker i).Awaits w)
    (taskId : String) (r : SearchRequest) :
    let flight := inFlight (board.tracker i).snapshot taskId r
    (script taskId r).Kept board i flight (lastUpdate flight success (.ofWord 100)) := by
  intro flight
  apply Script.kept hi hdetached hawaits (foldl_script _ taskId r)
  intro outcome t ht
  have hshown := snapshot_conclude outcome t
  rw [ht] at hshown
  exact hshown

theorem run_eq_call (b : Backend σ) (source : Nat) {r : SearchRequest} (i : Nat) (s : Site σ)
    (hquery : Text.blank r.query = false) :
    run b source r (some i) s =
      (script (Task.searchId (s.nextStamp source).1) r).call (c := .search r) b i
        (s.nextStamp source).2 := by
  rw [run, if_neg (ne_true_of_eq_false hquery)]
  rfl

end Search

/-! ## Exports of all platforms -/

namespace Export

def scriptAll (taskId : String) (platform : Platform) (r : ExportRequest) : Script Unit where
  taskId := taskId
  statusText := "Preparing export..."
  notes :=
    [.line (startLine .all platform r).message .info,
      .progress (.zero false) "Exporting all platforms..."]
  ending := concludeAll

/-- The display while the backend exports all platforms. -/
def inFlightAll (before : Snapshot) (taskId : String) (platform : Platform) (r : ExportRequest) :
    Snapshot where
  isOpen := true
  title := before.title
  taskId := some taskId
  status := .running
  percent := .zero false
  statusText := "Exporting all platforms..."
  logs := [startLine .all platform r]
  summary := []
  cancellable := before.cancellable
  revision := before.revision + 3

theorem foldl_scriptAll (before : Snapshot) (taskId : String) (platform : Platform)
    (r : ExportRequest) :
    (scriptAll taskId platform r).notes.foldl Note.on
      (before.begin (scriptAll taskId platform r).taskId
        (scriptAll taskId platform r).statusText).bump
      = inFlightAll before taskId platform r := by
  simp only [scriptAll, inFlightAll, List.foldl_cons, List.foldl_nil, Note.on, Snapshot.begin,
    Snapshot.bump, Snapshot.setProgress, Snapshot.append, List.nil_append]
  rfl

/-- The text and the line of an export of all platforms. -/
def successAll (_ : Unit) : String × String :=
  ("All platforms exported", "All platforms exported")

/-- While the task is running, a failure becomes its status, and the percentage stays. -/
theorem snapshot_concludeAll (outcome : Outcome Unit) {t : Tracker}
    (hrunning : t.snapshot.status = .running) :
    (concludeAll outcome t).snapshot
      = lastUpdate t.snapshot successAll t.snapshot.percent outcome := by
  cases outcome with
  | ok _ =>
    simp only [concludeAll, Tracker.snapshot_finish, Snapshot.finish, Snapshot.bump, lastUpdate,
      successAll, Option.toList_some]
  | error e =>
    show (t.fail e.userMessage).2.snapshot = _
    have hopen : ¬ t.snapshot.status.isTerminal = true := by
      rw [hrunning]
      decide
    rw [Tracker.snapshot_fail, Snapshot.fail, if_neg hopen]
    rfl

theorem kept_scriptAll {board : Board} {i : Nat} {w : Option Timer} (hi : i < board.trackers.length)
    (hdetached : ∀ l ∈ board.bus.listeners, l.handler ≠ i) (hawaits : (board.tracker i).Awaits w)
    (taskId : String) (platform : Platform) (r : ExportRequest) :
    let flight := inFlightAll (board.tracker i).snapshot taskId platform r
    (scriptAll taskId platform r).Kept board i flight
      (lastUpdate flight successAll (.zero false)) := by
  intro flight
  apply Script.kept hi hdetached hawaits (foldl_scriptAll _ taskId platform r)
  intro outcome t ht
  have hrunning : t.snapshot.status = .running := congrArg Snapshot.status ht
  have hshown := snapshot_concludeAll outcome hrunning
  rw [ht] at hshown
  exact hshown

theorem run_all_eq (b : Backend σ) (source : Nat) (platform : Platform) {r : ExportRequest}
    (i : Nat) (s : Site σ) (hcheck : r.check = .ok ()) :
    let task : Task := ⟨Task.exportId (s.nextStamp source).1, .exporting, none, r.query⟩
    let call := (scriptAll task.id platform r).call (c := .exportAll r) b i (s.nextStamp source).2
    run b source .all platform r i s = (call.1.map fun _ => ⟨task, none⟩, call.2) := by
  intro task call
  rw [run, hcheck]
  rfl

end Export

/-! ## Both -/

/-- **Tasks without events.**  A search and an export of all platforms that pass their checks, on a
tracker that is attached nowhere, whatever it has shown before.  Each call goes through the moments
of its script, and asks the backend once, when all notes are made.  Whatever events are published at
any of these moments, and however much time passes: the task is running from the opening of the
display on; it stands at 60 percent, or at 0, while the backend works; and then one update ends it,
as a success just if the backend succeeds.  The outcome of the backend is handed on. -/
theorem unreported_calls (b : Backend σ) (source i : Nat) (s : Site σ) {title : String}
    {canWait : Bool} {as : List Tracker.Action} (hi : i < s.board.trackers.length)
    (hdetached : ∀ l ∈ s.board.bus.listeners, l.handler ≠ i)
    (hreached : s.tracker i = (Tracker.new title canWait).run as) :
    (∀ r : SearchRequest, Text.blank r.query = false →
      let script := Search.script (Task.searchId (s.nextStamp source).1) r
      let answer := (b (.search r) s.backend).1
      let result := Search.run b source r (some i) s
      let flight := Search.inFlight (s.tracker i).snapshot script.taskId r
      let last := lastUpdate flight Search.success (.ofWord 100)
      script.Kept s.board i flight last ∧
      result.2.board = (script.after s.board i (script.moments answer.events)).update i
        (script.ending answer.outcome) ∧
      result.2.journal = s.journal ++ [(.search r, script.after s.board i (script.moments []))] ∧
      (result.2.tracker i).snapshot = last answer.outcome ∧
      result.1 = answer.outcome) ∧
    (∀ (platform : Platform) (r : ExportRequest), r.check = .ok () →
      let task : Task := ⟨Task.exportId (s.nextStamp source).1, .exporting, none, r.query⟩
      let script := Export.scriptAll task.id platform r
      let answer := (b (.exportAll r) s.backend).1
      let result := Export.run b source .all platform r i s
      let flight := Export.inFlightAll (s.tracker i).snapshot script.taskId platform r
      let last := lastUpdate flight Export.successAll (.zero false)
      script.Kept s.board i flight last ∧
      result.2.board = (script.after s.board i (script.moments answer.events)).update i
        (script.ending answer.outcome) ∧
      result.2.journal = s.journal ++ [(.exportAll r, script.after s.board i (script.moments []))] ∧
      (result.2.tracker i).snapshot = last answer.outcome ∧
      result.1 = answer.outcome.map fun _ => ⟨task, none⟩) := by
  obtain ⟨w, hawaits⟩ := (Tracker.awaits_new title canWait).run as
  rw [← hreached] at hawaits
  constructor
  · intro r hquery script answer result flight last
    have hkept : script.Kept s.board i flight last :=
      Search.kept_script hi hdetached hawaits script.taskId r
    have hresult : result = script.call (c := .search r) b i (s.nextStamp source).2 :=
      Search.run_eq_call b source i s hquery
    rw [hresult]
    exact ⟨hkept, Script.call_shown b hkept⟩
  · intro platform r hcheck task script answer result flight last
    have hkept : script.Kept s.board i flight last :=
      Export.kept_scriptAll hi hdetached hawaits script.taskId platform r
    have hresult : result = ((script.call (c := .exportAll r) b i (s.nextStamp source).2).1.map
        fun _ => ⟨task, none⟩, (script.call (c := .exportAll r) b i (s.nextStamp source).2).2) :=
      Export.run_all_eq b source platform i s hcheck
    rw [hresult]
    obtain ⟨hboard, hjournal, hshown, houtcome⟩ :=
      Script.call_shown (c := .exportAll r) (s := (s.nextStamp source).2) b hkept
    exact ⟨hkept, hboard, hjournal, hshown, congrArg (Except.map _) houtcome⟩

/-- A backend that publishes events of the very task it works on, as if it had ended. -/
def interfering : Backend Unit
  | .search _, _ => (⟨[.new "search_5" (.ofWord 90) .success "done"], .error .zeroPages⟩, ())
  | .exportAll _, _ => (⟨[.new "export_5" (.ofWord 90) .error "stopped"], .ok ()⟩, ())
  | _, _ => (⟨[], .error .zeroPages⟩, ())

/-- A search that has failed, and whose display is to be put away 60 milliseconds from now. -/
def failedBefore : List Tracker.Action :=
  [.withPolicy (.after 100), .begin "search_3" "Preparing search...", .fail "lost", .elapse 40]

theorem unreported_calls_interfering :
    let s : Site Unit :=
      ⟨(), ((Board.new [(Tracker.new "Task" true).run failedBefore, .new "Other" true]).attach 1).2,
        [0], 5, []⟩
    let searched := Search.run interfering 0 ⟨.fofa, "a", 1, 10⟩ (some 0) s
    let exported := Export.run interfering 0 .all .fofa (.new "a" 1 10) 0 s
    let script := Search.script (Task.searchId (s.nextStamp 0).1) ⟨.fofa, "a", 1, 10⟩
    let ms : List Board.Moment := script.notes.map .noted ++
      [.passed (.paused 60), .passed (.published (.new "search_5" (.ofWord 90) .success "done"))]
    (searched.1 = .error .zeroPages ∧
      (searched.2.tracker 0).snapshot =
        { isOpen := true
          title := "Task"
          taskId := some "search_5"
          status := .error
          percent := .ofWord 100
          statusText := "Failed: Refusing to start a zero-page export"
          logs := [⟨"Searching FOFA: a", .info⟩,
            ⟨"Failed: Refusing to start a zero-page export", .error⟩]
          summary := []
          cancellable := false
          revision := 7 }) ∧
    ((script.after s.board 0 ms).tracker 0).snapshot.percent = .ofWord 60 ∧
    exported.1 = .ok ⟨⟨"export_5", .exporting, none, "a"⟩, none⟩ ∧
    (exported.2.tracker 0).snapshot.status = .success := by
  intro s searched exported script ms
  have hreached : s.tracker 0 = (Tracker.new "Task" true).run failedBefore := rfl
  obtain ⟨hsearches, hexports⟩ :=
    unreported_calls interfering 0 0 s (by decide) (by decide) hreached
  obtain ⟨hkept, -, -, hsearched, hfailure⟩ := hsearches ⟨.fofa, "a", 1, 10⟩ (by decide +kernel)
  obtain ⟨-, -, -, hexported, hresult⟩ := hexports .fofa (.new "a" 1 10) rfl
  have hid : Task.exportId (s.nextStamp 0).1 = "export_5" := by decide +kernel
  refine ⟨⟨hfailure, ?_⟩, ?_, ?_, ?_⟩
  · exact hsearched.trans (by decide +kernel)
  · rw [hkept.inFlight ms rfl, Search.inFlight]
  · rw [hid] at hresult
    exact hresult
  · exact congrArg Snapshot.status hexported

end AssetSearch
