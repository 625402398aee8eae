/-
# What a session shows

From the moment a task is opened on a tracker that is attached once, its display is made of three
parts with rules of their own: the state is that of the last event of the task, the counters are
those of the last one that carries any, and the log has a line for every one with a message.

Key definitions: `Severity.Names`, `Event.Writes`, `Event.counters`.  Key statement:
`display_of_session`.
-/
import AssetSearch.Proofs.Progress.Boards

namespace AssetSearch.Progress

/-! ## Lines of the log -/

namespace Severity

/-- The severity that the type of a line stands for: the one with that name, whatever its case, and
`info` when there is no type or no severity has that name. -/
inductive Names : Option String → Severity → Prop where
  | named {text : String} {v : Severity} : Text.lower text = v.key → Names (some text) v
  | missing : Names none info
  | unknown {text : String} : (∀ v : Severity, Text.lower text ≠ v.key) → Names (some text) info

theorem mem_all (v : Severity) : v ∈ all := by
  cases v <;> decide

theorem names_parse (type : Option String) : Names type (parse type) := by
  cases type with
  | none => exact .missing
  | some text =>
    rw [parse]
    cases hfound : all.find? fun v => v.key == Text.lower text with
    | none =>
      refine .unknown fun v hv => ?_
      exact List.find?_eq_none.1 hfound v (mem_all v) (by simp [hv])
    | some v =>
      have hkey : v.key = Text.lower text := by simpa using List.find?_some hfound
      exact .named hkey.symm

end Severity

namespace Event

/-- Whether an event has a message that is not empty. -/
def hasMessage (e : Event) : Bool :=
  e.logMessage.any fun message => !message.isEmpty

/-- An event writes a line: its message, with the severity that its type stands for. -/
structure Writes (e : Event) (line : LogLine) : Prop where
  message : e.logMessage = some line.message
  severity : Severity.Names e.logType line.severity

theorem logLine?_of_hasMessage {e : Event} (h : e.hasMessage = true) :
    ∃ line, e.logLine? = some line ∧ e.Writes line := by
  unfold hasMessage at h
  cases hmessage : e.logMessage with
  | none => simp [hmessage] at h
  | some message =>
    have hempty : message.isEmpty = false := by simpa [hmessage] using h
    refine ⟨⟨message, .parse e.logType⟩, ?_, hmessage, Severity.names_parse _⟩
    simp [logLine?, hmessage, hempty]

theorem logLine?_of_not_hasMessage {e : Event} (h : e.hasMessage = false) : e.logLine? = none := by
  unfold hasMessage at h
  cases hmessage : e.logMessage with
  | none => simp [logLine?, hmessage]
  | some message =>
    have hempty : message.isEmpty = true := by simpa [hmessage] using h
    simp only [logLine?, hmessage, hempty, if_true]

/-- The log of some events has one line for every message, in order. -/
theorem forall₂_writes (es : List Event) :
    List.Forall₂ Writes (es.filter hasMessage) (es.filterMap logLine?) := by
  induction es with
  | nil => exact .nil
  | cons e es ih =>
    cases h : e.hasMessage with
    | false =>
      rw [List.filter_cons_of_neg (by simp [h]),
        List.filterMap_cons_none (logLine?_of_not_hasMessage h)]
      exact ih
    | true =>
      obtain ⟨line, hline, hwrites⟩ := logLine?_of_hasMessage h
      rw [List.filter_cons_of_pos h, List.filterMap_cons_some hline]
      exact .cons hwrites ih

/-! ## Counters -/

/-- The counters of an event, as far as it carries them: the pages and the current one, then all
results and those fetched. -/
def counters (e : Event) : List SummaryItem :=
  (e.totalPages.map (SummaryItem.mk .totalPages)).toList ++
    (e.currentPage.map (SummaryItem.mk .currentPage)).toList ++
    (e.totalResults.map (SummaryItem.mk .totalResults)).toList ++
    (e.fetchedResults.map (SummaryItem.mk .fetched)).toList

theorem summary_eq_counters (e : Event) : e.summary = e.counters := by
  obtain ⟨taskId, percent, status, statusText, logMessage, logType, current, total, results,
    fetched⟩ := e
  cases current <;> cases total <;> cases results <;> cases fetched <;> rfl

end Event

/-! ## Sessions -/

namespace Board

variable {b : Board} {i : Nat}

/-- The display of a session: that of its start, with the events of its task taken over. -/
theorem AttachedOnce.snapshot_session (h : b.AttachedOnce i) (taskId text : String)
    {hs : List Happening}
    (hquiet : (b.update i fun t => t.begin taskId text).Undisturbed i hs) :
    (((b.update i fun t => t.begin taskId text).passAll hs).tracker i).snapshot
      = (((b.tracker i).snapshot.begin taskId text).bump).takeAll
          ((hs.filterMap Happening.event?).filter fun e => e.taskId = taskId) := by
  rw [(h.update i _).snapshot_passAll hquiet, tracker_update_self h.exists_tracker,
    Tracker.snapshot_begin, foldl_offerTo rfl]

/-- **The display of a session** on a tracker that is attached once, whatever happened before and
however long it takes, as long as no timer of the tracker is due.  Of the events that are published,
those of the task count: the last one gives percent, status and text, and the last one with counters
the summary; every message becomes a line of the log, in order; every event is one revision.  The
rest stays as it was when the task was opened. -/
theorem display_of_session (b : Board) (i : Nat) (h : b.AttachedOnce i) (taskId text : String)
    (hs : List Happening) (hquiet : (b.update i fun t => t.begin taskId text).Undisturbed i hs) :
    let opened := b.update i fun t => t.begin taskId text
    let first := (opened.tracker i).snapshot
    let shown := ((opened.passAll hs).tracker i).snapshot
    let own := (hs.filterMap Happening.event?).filter fun e => e.taskId = taskId
    (own = [] → shown.percent = .zero false ∧ shown.status = .running ∧ shown.statusText = text) ∧
    (∀ e, own.getLast? = some e →
      shown.percent = e.percent ∧ shown.status = e.status ∧ shown.statusText = e.statusText) ∧
    List.Forall₂ Event.Writes (own.filter Event.hasMessage) shown.logs ∧
    (own.filter Event.hasCounters = [] → shown.summary = []) ∧
    (∀ e, (own.filter Event.hasCounters).getLast? = some e → shown.summary = e.counters) ∧
    shown.revision = first.revision + own.length ∧
    (shown.taskId = first.taskId ∧ first.taskId = some taskId) ∧
    (shown.title = first.title ∧ first.title = (b.tracker i).snapshot.title) ∧
    (shown.isOpen = first.isOpen ∧ first.isOpen = true) ∧
    (shown.cancellable = first.cancellable ∧
      first.cancellable = (b.tracker i).snapshot.cancellable) := by
  intro opened first shown own
  have hfirst : first = ((b.tracker i).snapshot.begin taskId text).bump := by
    show (opened.tracker i).snapshot = _
    rw [tracker_update_self h.exists_tracker, Tracker.snapshot_begin]
  have hshown : shown = first.takeAll own := by
    rw [hfirst]
    exact h.snapshot_session taskId text hquiet
  rw [hshown, Snapshot.takeAll_eq, hfirst]
  refine ⟨?_, ?_, ?_, ?_, ?_, rfl, ⟨rfl, rfl⟩, ⟨rfl, rfl⟩, ⟨rfl, rfl⟩, rfl, rfl⟩
  · intro hnone
    rw [hnone]
    exact ⟨rfl, rfl, rfl⟩
  · intro e hlast
    simp only [hlast, Option.map_some, Option.getD_some, and_self]
  · exact Event.forall₂_writes own
  · intro hnone
    rw [hnone]
    rfl
  · intro e hlast
    simp only [hlast, Option.map_some, Option.getD_some, Event.summary_eq_counters]

/-- A tracker with an old session and a running timer, attached among others.  A new session has an
event of another task, counters that are kept, a type in capitals, and pauses before its own end. -/
theorem display_of_session_crowded :
    let e (k : String) (n : Nat) (status : Status) : Event := .new k (.ofWord n) status "w"
    let counted := (e "new" 40 .running).withPages (some 2) none
    let logged := { e "new" 70 .running with logMessage := some "slow", logType := some "WaRnInG" }
    let last := e "new" 100 .success
    let tracker : Tracker :=
      (((Tracker.new "T" true).withPolicy (.after 3000)).begin "old" "").finish .success
        (.ofWord 100) "done" none
    let b : Board :=
      ⟨⟨4, [⟨1, none, 0⟩, ⟨2, none, 1⟩, ⟨3, some "new", 0⟩]⟩, [.new "A" true, tracker]⟩
    let hs : List Happening :=
      [.paused 5000, .published counted, .published logged, .published (e "old" 90 .success),
        .paused 5000, .published last, .paused 2999]
    let shown := (((b.update 1 fun t => t.begin "new" "go").passAll hs).tracker 1).snapshot
    b.AttachedOnce 1 ∧ (b.update 1 fun t => t.begin "new" "go").Undisturbed 1 hs ∧
      shown.percent = last.percent ∧ shown.status = .success ∧
      List.Forall₂ Event.Writes [logged] shown.logs ∧ shown.summary = [⟨.currentPage, 2⟩] := by
  intro e counted logged last tracker b hs shown
  have honce : b.AttachedOnce 1 := ⟨by decide, ⟨2, none, 1⟩, rfl, rfl⟩
  have hquiet : (b.update 1 fun t => t.begin "new" "go").Undisturbed 1 hs := by
    refine ⟨?_, ?_, ?_, ?_, ?_, ?_, ?_, trivial⟩
    all_goals
      intro ms hms
      cases hms
      try decide +kernel
  have hown : (hs.filterMap Happening.event?).filter (fun e => e.taskId = "new")
      = [counted, logged, last] := by decide +kernel
  have h := display_of_session b 1 honce "new" "go" hs hquiet
  simp only [hown] at h
  obtain ⟨-, hlast, hlogs, -, hsummary, -⟩ := h
  have hended := hlast last rfl
  exact ⟨honce, hquiet, hended.1, hended.2.1, hlogs, hsummary counted rfl⟩

end Board

end AssetSearch.Progress
