/-
# A batch is its keys added one by one

Adding all keys of a text gives the commands that adding its lines one by one gives, all of them
whatever the backend answers, and counts how often it succeeds.  It is refused if there is no line
to add or if every line would be refused for want of an email, and then gives no command.

Key definitions: `Keys.lacksEmail`, `Keys.sentEmail`, `Keys.addInTurn`.  Key statements:
`Keys.checked_eq`, `Keys.addEach_eq`, `Keys.batch_adds_in_turn`.
-/
import AssetSearch.Proofs.Backend.Asking
import AssetSearch.Proofs.Keys.Lines

namespace AssetSearch.Keys

variable {σ : Type}

/-! ## What the guards let through -/

/-- Whether the platform needs an email and there is none but blanks. -/
def lacksEmail (platform : Platform) (email : Option String) : Bool :=
  platform.requiresEmail && email.all Text.blank

/-- The email as it is sent: trimmed, and none where the platform needs none. -/
def sentEmail (platform : Platform) (email : Option String) : Option String :=
  if platform.requiresEmail then email.map Text.trim else none

/-- The failure of a key without the email that it needs. -/
def noEmail (platform : Platform) : Failure :=
  .invalidField "email" s!"{platform.displayName} keys require the account email"

theorem lacksEmail_iff {platform : Platform} {email : Option String} :
    lacksEmail platform email = true ↔
      platform = .fofa ∧ ∀ e, email = some e → Text.blank e = true := by
  rw [lacksEmail, Bool.and_eq_true, Option.all_eq_true]
  cases platform <;> simp [Platform.requiresEmail]

theorem checkedEmail_eq (platform : Platform) (email : Option String) :
    checkedEmail platform email =
      if lacksEmail platform email then .error (noEmail platform)
      else .ok (sentEmail platform email) := by
  rw [checkedEmail, lacksEmail, sentEmail]
  by_cases hneeds : platform.requiresEmail = true
  · cases email with
    | none => simp [hneeds, noEmail]
    | some e => by_cases he : Text.blank e = true <;> simp [hneeds, he, Text.filled?, noEmail]
  · simp [hneeds]

/-- **What the guards of a key let through**: the key comes first, then its email. -/
theorem checked_eq (platform : Platform) (key : String) (email : Option String) :
    checked platform key email =
      if Text.blank key then .error (.emptyInput "api key")
      else if lacksEmail platform email then .error (noEmail platform)
      else .ok (Text.trim key, sentEmail platform email) := by
  rw [checked, checkedKey, checkedEmail_eq, Text.filled?]
  by_cases hkey : Text.blank key = true
  · simp [hkey]
  · by_cases hemail : lacksEmail platform email = true <;> simp [hkey, hemail, Except.map]

/-! ## Adding one by one -/

section Adding

variable (b : Backend σ) {platform : Platform} {email : Option String}

/-- Adds keys one by one, whatever becomes of the others; the outcomes in order. -/
def addInTurn (platform : Platform) (email : Option String) :
    List String → Site σ → List (Outcome Unit) × Site σ
  | [], s => ([], s)
  | line :: rest, s =>
    let (outcome, s) := add b platform line email s
    let (others, s) := addInTurn platform email rest s
    (outcome :: others, s)

theorem length_addInTurn (lines : List String) (s : Site σ) :
    (addInTurn b platform email lines s).1.length = lines.length := by
  induction lines generalizing s with
  | nil => rfl
  | cons line rest ih => exact congrArg (· + 1) (ih _)

theorem add_of_filled (hemail : lacksEmail platform email = false) {line : String}
    (hline : Text.blank line = false) (s : Site σ) :
    add b platform line email s
      = s.invoke b (.addKey platform (Text.trim line) (sentEmail platform email)) := by
  have hchecked : checked platform line email
      = .ok (Text.trim line, sentEmail platform email) := by
    simp [checked_eq, hline, hemail]
  rw [add, hchecked]

theorem add_of_lacksEmail (hemail : lacksEmail platform email = true) {line : String}
    (hline : Text.blank line = false) (s : Site σ) :
    add b platform line email s = (.error (noEmail platform), s) := by
  have hchecked : checked platform line email = .error (noEmail platform) := by
    simp [checked_eq, hline, hemail]
  rw [add, hchecked]

/-- Some counts, and those of further outcomes. -/
def countAll (counts : BatchOutcome) (outcomes : List (Outcome Unit)) : BatchOutcome where
  succeeded := counts.succeeded + outcomes.countP succeeded
  failed := counts.failed + outcomes.countP fun o => !succeeded o

theorem countAll_cons (counts : BatchOutcome) (o : Outcome Unit) (outcomes : List (Outcome Unit)) :
    countAll counts (o :: outcomes) = countAll (counts.count (succeeded o)) outcomes := by
  cases h : succeeded o <;>
    simp [countAll, BatchOutcome.count, h, Nat.add_assoc, Nat.add_comm]

/-- Every outcome counts on one side. -/
theorem total_countAll (counts : BatchOutcome) (outcomes : List (Outcome Unit)) :
    (countAll counts outcomes).total = counts.total + outcomes.length := by
  induction outcomes generalizing counts with
  | nil => rfl
  | cons o outcomes ih =>
    have hone : (counts.count (succeeded o)).total = counts.total + 1 := by
      cases h : succeeded o <;> simp [BatchOutcome.count, BatchOutcome.total] <;> omega
    rw [countAll_cons, ih, hone, List.length_cons]
    omega

/-- Lines that have an email if they need one are added one by one as the keys of a batch are. -/
theorem addEach_eq (hemail : lacksEmail platform email = false) {lines : List String}
    (hlines : ∀ line ∈ lines, Text.blank line = false) (counts : BatchOutcome) (s : Site σ) :
    addEach b platform (sentEmail platform email) (lines.map Text.trim) counts s =
      (countAll counts (addInTurn b platform email lines s).1,
        (addInTurn b platform email lines s).2) := by
  induction lines generalizing counts s with
  | nil => rfl
  | cons line rest ih =>
    obtain ⟨hline, hrest⟩ := List.forall_mem_cons.1 hlines
    simp only [List.map_cons, addEach, addInTurn, add_of_filled b hemail hline, ih hrest]
    exact Prod.ext (countAll_cons counts _ _).symm rfl

/-- A command leaves a trace, whatever comes of it. -/
theorem add_ne_of_filled (hemail : lacksEmail platform email = false) {line : String}
    (hline : Text.blank line = false) (s : Site σ) : (add b platform line email s).2 ≠ s := by
  intro hsame
  have hcommands := Site.commands_invoke b
    (.addKey platform (Text.trim line) (sentEmail platform email)) s
  rw [add_of_filled b hemail hline s] at hsame
  rw [hsame] at hcommands
  simp at hcommands

end Adding

/-! ## Batches -/

theorem blank_of_mem_filledLines {text line : String} (h : line ∈ filledLines text) :
    Text.blank line = false := by
  simpa using (List.mem_filter.1 h).2

theorem addBatch_of_empty (b : Backend σ) {platform : Platform} {text : String}
    {email : Option String} {s : Site σ} (h : filledLines text = []) :
    addBatch b platform text email s = (.error (.emptyInput "key batch"), s) := by
  rw [addBatch, parseBatch_eq_map, h]
  rfl

theorem addBatch_of_lacksEmail (b : Backend σ) {platform : Platform} {text : String}
    {email : Option String} {s : Site σ} (h : filledLines text ≠ [])
    (hemail : lacksEmail platform email = true) :
    addBatch b platform text email s = (.error (noEmail platform), s) := by
  have hkeys : (parseBatch text).isEmpty = false := by simpa [parseBatch_eq_map] using h
  simp only [addBatch, hkeys, checkedEmail_eq, hemail, Bool.false_eq_true, if_false, if_true]

theorem addBatch_of_passes (b : Backend σ) {platform : Platform} {text : String}
    {email : Option String} {s : Site σ} (h : filledLines text ≠ [])
    (hemail : lacksEmail platform email = false) :
    addBatch b platform text email s =
      (.ok (countAll ⟨0, 0⟩ (addInTurn b platform email (filledLines text) s).1),
        (addInTurn b platform email (filledLines text) s).2) := by
  have hkeys : (parseBatch text).isEmpty = false := by simpa [parseBatch_eq_map] using h
  simp only [addBatch, hkeys, checkedEmail_eq, hemail, Bool.false_eq_true, if_false]
  rw [parseBatch_eq_map, addEach_eq b hemail fun line => blank_of_mem_filledLines]

/-- What adding lines one by one asks the backend. -/
theorem commands_addInTurn (b : Backend σ) {platform : Platform} {email : Option String}
    (hemail : lacksEmail platform email = false) {lines : List String}
    (hlines : ∀ line ∈ lines, Text.blank line = false) (s : Site σ) :
    (addInTurn b platform email lines s).2.commands = s.commands ++
      lines.map fun line => .addKey platform (Text.trim line) (sentEmail platform email) := by
  have heach := congrArg Prod.snd (addEach_eq b hemail hlines ⟨0, 0⟩ s)
  rw [← heach, commands_addEach, List.map_map]
  rfl

/-- **A batch is its keys added one by one.**  If a batch is added, everything is as if each of its
lines that are not blank had been added by itself, in order: one command for each of them, whatever
became of those before.  The outcomes are counted, so that there are as many as lines.  A batch
fails just if all its lines are blank, or if there are some and the email is one with which none of
them can be added; and a batch that fails changes nothing and gives no command. -/
theorem batch_adds_in_turn (b : Backend σ) (platform : Platform) (text : String)
    (email : Option String) (s : Site σ) :
    let lines := filledLines text
    let batch := addBatch b platform text email s
    let inTurn := addInTurn b platform email lines s
    (∀ counts, batch.1 = .ok counts →
      batch.2 = inTurn.2 ∧
      batch.2.commands = s.commands ++
        lines.map (fun line => .addKey platform (Text.trim line) (sentEmail platform email)) ∧
      inTurn.1.length = lines.length ∧
      counts.succeeded = inTurn.1.countP succeeded ∧
      counts.failed = inTurn.1.countP (fun o => !succeeded o) ∧
      counts.total = lines.length) ∧
    (∀ e, batch.1 = .error e ↔
      (lines = [] ∧ e = .emptyInput "key batch") ∨
      (lines ≠ [] ∧ (∃ message, e = .invalidField "email" message) ∧
        ∀ line ∈ lines, add b platform line email s = (.error e, s))) ∧
    (∀ e, batch.1 = .error e → batch.2 = s) := by
  intro lines batch inTurn
  have hlines : ∀ line ∈ lines, Text.blank line = false := fun line => blank_of_mem_filledLines
  by_cases hempty : lines = []
  · have hbatch : batch = (.error (.emptyInput "key batch"), s) := addBatch_of_empty b hempty
    rw [hbatch]
    refine ⟨fun counts h => (by cases h), fun e => ?_, fun e _ => rfl⟩
    simp [hempty, eq_comm]
  · obtain ⟨line, hline⟩ := List.exists_mem_of_ne_nil lines hempty
    cases hemail : lacksEmail platform email with
    | true =>
      have hbatch : batch = (.error (noEmail platform), s) :=
        addBatch_of_lacksEmail b hempty hemail
      rw [hbatch]
      refine ⟨fun counts h => (by cases h), fun e => ⟨?_, ?_⟩, fun e _ => rfl⟩
      · rintro ⟨⟩
        exact .inr ⟨hempty, ⟨_, rfl⟩, fun line hline =>
          add_of_lacksEmail b hemail (hlines line hline) s⟩
      · rintro (⟨hnone, -⟩ | ⟨-, -, hadd⟩)
        · exact absurd hnone hempty
        · have hrefused := add_of_lacksEmail b hemail (hlines line hline) s
          cases hrefused.symm.trans (hadd line hline)
          rfl
    | false =>
      have hbatch : batch = (.ok (countAll ⟨0, 0⟩ inTurn.1), inTurn.2) :=
        addBatch_of_passes b hempty hemail
      have hcommands := commands_addInTurn b hemail hlines s
      have hlength : inTurn.1.length = lines.length := length_addInTurn b lines s
      rw [hbatch]
      refine ⟨?_, fun e => ⟨fun h => (by cases h), ?_⟩, fun e h => (by cases h)⟩
      · rintro _ ⟨⟩
        refine ⟨rfl, hcommands, hlength, Nat.zero_add _, Nat.zero_add _, ?_⟩
        rw [total_countAll, hlength]
        exact Nat.zero_add _
      · rintro (⟨hnone, -⟩ | ⟨-, -, hadd⟩)
        · exact absurd hnone hempty
        · -- a line that can be added is not refused without a trace
          exact absurd (congrArg Prod.snd (hadd line hline))
            (add_ne_of_filled b hemail (hlines line hline) s)

/-- A backend that fails to add every second key, and says so as a guard would. -/
def alternating : Backend Nat
  | .addKey .., n =>
    (⟨[], if n % 2 = 0 then .ok () else .error (.invalidField "email" "no")⟩, n + 1)
  | _, n => (⟨[], .error .zeroPages⟩, n)

/-- Three keys between blank lines, of which the second is not added; and the same keys without the
email that they need. -/
theorem batch_adds_in_turn_failing :
    let text := "
 a
 
b

	c"
    let s : Site Nat := ⟨0, .new [], [], 0, []⟩
    let batch := addBatch alternating .fofa text (some " me@a.test ") s
    let refused := addBatch alternating .fofa text (some " ") s
    (batch.1 = .ok ⟨2, 1⟩ ∧
      batch.2.commands = [.addKey .fofa "a" (some "me@a.test"),
        .addKey .fofa "b" (some "me@a.test"), .addKey .fofa "c" (some "me@a.test")]) ∧
    refused.1 = .error (noEmail .fofa) ∧ refused.2 = s := by
  intro text s batch refused
  have hlines : filledLines text = [" a", "b", "	c"] := by decide +kernel
  have hbatch : batch.1 = .ok ⟨2, 1⟩ := by
    rw [show batch = _ from
      addBatch_of_passes alternating (by rw [hlines]; decide) (by decide +kernel), hlines]
    exact congrArg Except.ok (by decide +kernel)
  have hrefused : refused.1 = .error (noEmail .fofa) := by
    rw [show refused = _ from addBatch_of_lacksEmail alternating (by rw [hlines]; decide)
      (by decide +kernel)]
  have hadds := batch_adds_in_turn alternating .fofa text (some " me@a.test ") s
  have hrefuses := batch_adds_in_turn alternating .fofa text (some " ") s
  obtain ⟨-, hcommands, -⟩ := hadds.1 _ hbatch
  refine ⟨⟨hbatch, hcommands.trans ?_⟩, hrefused, hrefuses.2.2 _ hrefused⟩
  rw [hlines]
  decide +kernel

end AssetSearch.Keys
