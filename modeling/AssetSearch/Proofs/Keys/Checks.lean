/-
# Every listed key is checked by itself

All keys of a platform are checked in the order in which the backend lists them, each with the email
at its place.  What comes of one check is decided by the key, its email and what the backend answers
to the one command that the check gives; a key that is refused gives none.  So no check depends on
what has become of another one.

Key definitions: `KeyList.emailAt`, `Site.giveAll`, `Keys.checkCommand?`.  Key statements:
`KeyList.getElem?_entries`, `Keys.validate_fst_congr`, `Keys.getElem?_checkEach`,
`Keys.checks_of_listing`.
-/
import AssetSearch.Proofs.Keys.Batches

namespace AssetSearch

variable {σ : Type}

/-! ## Keys and their emails -/

namespace KeyList

/-- The email at a place, if there is one and it is not empty. -/
def emailAt (l : KeyList) (i : Nat) : Option String :=
  (l.emails.bind fun emails => emails[i]?).filter fun e => !e.isEmpty

theorem getElem?_pair (keys emails : List String) (i : Nat) :
    (pair keys emails)[i]?
      = keys[i]?.map fun key => ⟨key, emails[i]?.filter fun e => !e.isEmpty⟩ := by
  induction keys generalizing emails i with
  | nil => rfl
  | cons key keys ih =>
    cases emails with
    | nil =>
      cases i with
      | zero => rfl
      | succ i => simpa [pair] using ih [] i
    | cons e emails =>
      cases i with
      | zero => cases h : e.isEmpty <;> simp [pair, Option.filter, h]
      | succ i => simpa [pair] using ih emails i

/-- Every key is listed with the email at its place. -/
theorem getElem?_entries (l : KeyList) (i : Nat) :
    l.entries[i]? = l.keys[i]?.map fun key => ⟨key, l.emailAt i⟩ := by
  rw [entries, getElem?_pair, emailAt]
  cases l.emails <;> rfl

theorem length_entries (l : KeyList) : l.entries.length = l.keys.length := by
  refine Nat.le_antisymm (List.getElem?_eq_none_iff.1 ?_) (List.getElem?_eq_none_iff.1 ?_)
  · rw [getElem?_entries, List.getElem?_eq_none (Nat.le_refl _), Option.map_none]
  · have hnone := getElem?_entries l l.entries.length
    rw [List.getElem?_eq_none (Nat.le_refl _)] at hnone
    exact Option.map_eq_none_iff.1 hnone.symm

end KeyList

/-! ## Commands one after the other -/

namespace Site

/-- Gives commands one after the other, whatever the backend answers. -/
def giveAll (b : Backend σ) (cs : List Command) (s : Site σ) : Site σ :=
  cs.foldl (fun s c => (s.invoke b c).2) s

theorem giveAll_append (b : Backend σ) (cs cs' : List Command) (s : Site σ) :
    s.giveAll b (cs ++ cs') = (s.giveAll b cs).giveAll b cs' :=
  List.foldl_append

theorem commands_giveAll (b : Backend σ) (cs : List Command) (s : Site σ) :
    (s.giveAll b cs).commands = s.commands ++ cs := by
  induction cs generalizing s with
  | nil => exact (List.append_nil _).symm
  | cons c cs ih =>
    refine (ih (s.invoke b c).2).trans ?_
    rw [commands_invoke, List.append_assoc]
    rfl

end Site

/-! ## One check -/

namespace Keys

/-- The command that checks a key, unless the key is refused. -/
def checkCommand? (platform : Platform) (entry : KeyEntry) : Option Command :=
  if Text.blank entry.key || lacksEmail platform entry.email then none
  else some (.validateKey platform (Text.trim entry.key) (sentEmail platform entry.email))

/-- The failure of a key that is refused. -/
def refusal (platform : Platform) (entry : KeyEntry) : Failure :=
  if Text.blank entry.key then .emptyInput "api key" else noEmail platform

theorem checkCommand?_eq_none_iff {platform : Platform} {entry : KeyEntry} :
    checkCommand? platform entry = none ↔ Text.blank entry.key = true ∨
      (platform = .fofa ∧ ∀ e, entry.email = some e → Text.blank e = true) := by
  simp [checkCommand?, ← lacksEmail_iff, or_iff_not_imp_left]

theorem isLocalGuard_refusal (platform : Platform) (entry : KeyEntry) :
    (refusal platform entry).isLocalGuard = true := by
  rw [refusal]
  split <;> rfl

variable (b : Backend σ) {platform : Platform}

theorem validate_of_refused {entry : KeyEntry} (h : checkCommand? platform entry = none)
    (s : Site σ) :
    validate b platform entry.key entry.email s = (.error (refusal platform entry), s) := by
  have hrefused : Text.blank entry.key = false → lacksEmail platform entry.email = true := by
    simpa [checkCommand?] using h
  have hchecked : checked platform entry.key entry.email = .error (refusal platform entry) := by
    rw [checked_eq, refusal]
    cases hkey : Text.blank entry.key with
    | true => rfl
    | false => simp [hrefused hkey]
  rw [validate, hchecked]

/-- A check that is not refused is the outcome of its command. -/
theorem exists_validate_eq {entry : KeyEntry} (h : checkCommand? platform entry ≠ none) :
    ∃ key email, checkCommand? platform entry = some (.validateKey platform key email) ∧
      ∀ s, validate b platform entry.key entry.email s
        = s.invoke b (.validateKey platform key email) := by
  have hpasses : Text.blank entry.key = false ∧ lacksEmail platform entry.email = false := by
    simpa [checkCommand?] using h
  have hchecked : checked platform entry.key entry.email
      = .ok (Text.trim entry.key, sentEmail platform entry.email) := by
    simp [checked_eq, hpasses]
  refine ⟨Text.trim entry.key, sentEmail platform entry.email, ?_, fun s => ?_⟩
  · simp [checkCommand?, hpasses]
  · rw [validate, hchecked]

/-- A check gives its command, if it has one. -/
theorem validate_snd (entry : KeyEntry) (s : Site σ) :
    (validate b platform entry.key entry.email s).2
      = s.giveAll b (checkCommand? platform entry).toList := by
  by_cases h : checkCommand? platform entry = none
  · rw [validate_of_refused b h, h]
    rfl
  · obtain ⟨key, email, hcommand, hvalidate⟩ := exists_validate_eq b h
    rw [hvalidate, hcommand]
    rfl

/-- **Nothing but the answer to its own command decides a check.** -/
theorem validate_fst_congr {entry : KeyEntry} {s s' : Site σ}
    (h : ∀ c, checkCommand? platform entry = some c →
      (b c s.backend).1.outcome = (b c s'.backend).1.outcome) :
    (validate b platform entry.key entry.email s).1
      = (validate b platform entry.key entry.email s').1 := by
  by_cases hnone : checkCommand? platform entry = none
  · rw [validate_of_refused b hnone, validate_of_refused b hnone]
  · obtain ⟨key, email, hcommand, hvalidate⟩ := exists_validate_eq b hnone
    rw [hvalidate, hvalidate]
    exact h _ hcommand

/-! ## All checks -/

/-- Checks one after the other give their commands, whatever comes of them. -/
theorem checkEach_snd (entries : List KeyEntry) (s : Site σ) :
    (checkEach b platform entries s).2
      = s.giveAll b (entries.filterMap (checkCommand? platform)) := by
  induction entries generalizing s with
  | nil => rfl
  | cons entry rest ih =>
    have hrest : (checkEach b platform (entry :: rest) s).2
        = (checkEach b platform rest (validate b platform entry.key entry.email s).2).2 := rfl
    rw [hrest, ih, validate_snd, ← Site.giveAll_append]
    cases hcommand : checkCommand? platform entry <;> simp [hcommand]

/-- Each check comes after the commands of the keys before it. -/
theorem getElem?_checkEach (entries : List KeyEntry) (s : Site σ) (i : Nat) :
    (checkEach b platform entries s).1[i]? = entries[i]?.map fun entry =>
      ⟨entry, (validate b platform entry.key entry.email
        (s.giveAll b ((entries.take i).filterMap (checkCommand? platform)))).1.mapError
          Failure.userMessage⟩ := by
  induction entries generalizing s i with
  | nil => rfl
  | cons entry rest ih =>
    cases i with
    | zero => rfl
    | succ i =>
      have hrest : (checkEach b platform (entry :: rest) s).1[i + 1]?
          = (checkEach b platform rest (validate b platform entry.key entry.email s).2).1[i]? := rfl
      rw [hrest, ih, validate_snd, ← Site.giveAll_append]
      cases hcommand : checkCommand? platform entry <;> simp [hcommand]

theorem length_checkEach (entries : List KeyEntry) (s : Site σ) :
    (checkEach b platform entries s).1.length = entries.length := by
  induction entries generalizing s with
  | nil => rfl
  | cons entry rest ih => exact congrArg (· + 1) (ih _)

theorem validateAll_of_error {e : Failure} {s : Site σ}
    (h : (s.invoke b (.keys platform)).1 = .error e) :
    validateAll b platform s = (.error e, (s.invoke b (.keys platform)).2) := by
  have hlist : list b platform s = (.error e, (s.invoke b (.keys platform)).2) := by
    show (Except.map KeyList.entries (s.invoke b (.keys platform)).1, _) = _
    rw [h]
    rfl
  rw [validateAll, hlist]

theorem validateAll_of_ok {l : KeyList} {s : Site σ}
    (h : (s.invoke b (.keys platform)).1 = .ok l) :
    validateAll b platform s =
      (.ok (checkEach b platform l.entries (s.invoke b (.keys platform)).2).1,
        (checkEach b platform l.entries (s.invoke b (.keys platform)).2).2) := by
  have hlist : list b platform s = (.ok l.entries, (s.invoke b (.keys platform)).2) := by
    show (Except.map KeyList.entries (s.invoke b (.keys platform)).1, _) = _
    rw [h]
    rfl
  rw [validateAll, hlist]

/-- The commands that check the first keys of a list. -/
def checksBefore (platform : Platform) (l : KeyList) (i : Nat) : List Command :=
  (l.entries.take i).filterMap (checkCommand? platform)

/-- **Every listed key is checked by itself.**  Checking all keys fails just if they cannot be
listed.  Otherwise there is one check for each key of the list, in its order, of the key with the
email at its place; before it, the commands for the keys before it have been given, whatever came of
them.  Its verdict is that of a check of this key and email alone, on any site where the backend
would answer its command alike, with the text of a failure for the operator.  A blank key, and on
the platform that needs one a key without an email, is refused on the spot and gives no command. -/
theorem checks_of_listing (b : Backend σ) (platform : Platform) (s : Site σ) :
    let listing := s.invoke b (.keys platform)
    let result := validateAll b platform s
    (∀ e, listing.1 = .error e → result = (.error e, listing.2)) ∧
    ∀ l : KeyList, listing.1 = .ok l → ∃ checks,
      result = (.ok checks, listing.2.giveAll b (checksBefore platform l l.keys.length)) ∧
      result.2.commands
        = s.commands ++ .keys platform :: l.entries.filterMap (checkCommand? platform) ∧
      checks.length = l.keys.length ∧
      ∀ i key, l.keys[i]? = some key →
        let entry : KeyEntry := ⟨key, l.emailAt i⟩
        let before := listing.2.giveAll b (checksBefore platform l i)
        ∃ verdict, checks[i]? = some ⟨entry, verdict⟩ ∧
          (∀ s' : Site σ, (∀ c, checkCommand? platform entry = some c →
              (b c before.backend).1.outcome = (b c s'.backend).1.outcome) →
            verdict = (validate b platform key entry.email s').1.mapError Failure.userMessage) ∧
          (Text.blank key = true ∨
              (platform = .fofa ∧ ∀ e, entry.email = some e → Text.blank e = true) →
            checkCommand? platform entry = none ∧
            ∃ e : Failure, e.isLocalGuard = true ∧ verdict = .error e.userMessage) := by
  intro listing result
  refine ⟨fun e h => validateAll_of_error b h, fun l h => ?_⟩
  have hresult : result = _ := validateAll_of_ok b h
  have htaken : checksBefore platform l l.keys.length
      = l.entries.filterMap (checkCommand? platform) := by
    rw [checksBefore, ← l.length_entries, List.take_length]
  refine ⟨(checkEach b platform l.entries listing.2).1, ?_, ?_, ?_, ?_⟩
  · rw [hresult, htaken, checkEach_snd]
  · rw [hresult, checkEach_snd, Site.commands_giveAll, Site.commands_invoke, List.append_assoc]
    rfl
  · rw [length_checkEach, l.length_entries]
  · intro i key hkey entry before
    have hentry : l.entries[i]? = some entry := by rw [l.getElem?_entries, hkey]; rfl
    refine ⟨(validate b platform key entry.email before).1.mapError Failure.userMessage, ?_, ?_, ?_⟩
    · rw [getElem?_checkEach, hentry]
      rfl
    · intro s' halike
      have hsame : (validate b platform entry.key entry.email before).1
          = (validate b platform entry.key entry.email s').1 := validate_fst_congr b halike
      exact congrArg (Except.mapError Failure.userMessage) hsame
    · intro hrefused
      have hnone : checkCommand? platform entry = none := checkCommand?_eq_none_iff.2 hrefused
      have hvalidate : validate b platform entry.key entry.email before
          = (.error (refusal platform entry), before) := validate_of_refused b hnone before
      refine ⟨hnone, refusal platform entry, isLocalGuard_refusal platform entry, ?_⟩
      exact congrArg (fun x => x.1.mapError Failure.userMessage) hvalidate

/-- A list with a blank key, an email that is blank and one that is empty, and more keys than
emails. -/
def mixedKeys : KeyList :=
  ⟨[" k1", "k2", "\t", "k3", "k4"], some ["a@a.test ", " ", "b@a.test", ""]⟩

/-- A backend that lists these keys on one platform only, and can check every second key. -/
def unsteady : Backend Nat
  | .keys .fofa, n => (⟨[], .ok mixedKeys⟩, n)
  | .validateKey .., n =>
    (⟨[],
        if n % 2 = 0 then .error (.backend "validate_api_key" "busy") else .ok ⟨true, none, none⟩⟩,
      n + 1)
  | _, n => (⟨[], .error (.connectionLost "a.test:1")⟩, n)

/-- Keys that cannot be listed; and a key that cannot be checked, before a blank one and three
without an email. -/
theorem checks_of_listing_mixed :
    let s : Site Nat := ⟨0, .new [], [], 0, []⟩
    let unlisted := validateAll unsteady .quake s
    let result := validateAll unsteady .fofa s
    (s.invoke unsteady (.keys .quake)).1 = .error (.connectionLost "a.test:1") ∧
    unlisted.1 = .error (.connectionLost "a.test:1") ∧
    (s.invoke unsteady (.keys .fofa)).1 = .ok mixedKeys ∧
    ∃ checks, result.1 = .ok checks ∧ checks.length = 5 ∧
      result.2.commands = [.keys .fofa, .validateKey .fofa "k1" (some "a@a.test")] ∧
      checks[0]? = some ⟨⟨" k1", some "a@a.test "⟩, .error "busy"⟩ ∧
      ∃ e : Failure, e.isLocalGuard = true ∧
        checks[1]? = some ⟨⟨"k2", some " "⟩, .error e.userMessage⟩ := by
  intro s unlisted result
  have hunlisted : (s.invoke unsteady (.keys .quake)).1 = .error (.connectionLost "a.test:1") := rfl
  have hlisted : (s.invoke unsteady (.keys .fofa)).1 = .ok mixedKeys := rfl
  obtain ⟨hfails, -⟩ := checks_of_listing unsteady .quake s
  obtain ⟨-, hchecks⟩ := checks_of_listing unsteady .fofa s
  obtain ⟨checks, hresult, hcommands, hlength, hcheck⟩ := hchecks mixedKeys hlisted
  obtain ⟨first, hfirst, hverdict, -⟩ := hcheck 0 " k1" rfl
  obtain ⟨second, hsecond, -, hrefused⟩ := hcheck 1 "k2" rfl
  obtain ⟨-, e, hlocal, rfl⟩ := hrefused (by decide +kernel)
  refine ⟨hunlisted, congrArg Prod.fst (hfails _ hunlisted), hlisted, checks,
    congrArg Prod.fst hresult, hlength, hcommands.trans (by decide +kernel), ?_, e, hlocal,
    hsecond⟩
  have hbusy : first = .error "busy" := (hverdict s fun _ _ => rfl).trans rfl
  rw [hfirst, hbusy]
  rfl

end Keys

end AssetSearch
