/-
# The filter over past queries

A keyword is looked for in lower case, and its lowercase is made without regard to what stands
around it in a query.  So a query that contains the keyword as it was typed may be missed: just if
the keyword has a capital sigma whose small form depends on its surroundings.  A platform is looked
for by its key, while the export of a past query reads every spelling of it: the filter leaves out
just the records in which the platform is spelled in another way.

Key definitions: `HistoryRecord.Mentions`.  Key statements: `HistoryFilter.accepts_keyword_iff`,
`HistoryFilter.verbatim_found_iff`, `HistoryFilter.accepts_platform_iff`,
`Export.exports_on_iff`, `HistoryFilter.shown_as_replayed_iff`.
-/
import AssetSearch.Proofs.History.Replaying
import AssetSearch.Proofs.Platform.Spellings
import AssetSearch.Proofs.Text.Surroundings

namespace AssetSearch

/-! ## Keywords -/

/-- Characters stand in the query or in the platform of a record, between others. -/
def HistoryRecord.Mentions (record : HistoryRecord) (left word right : List Char) : Prop :=
  record.query.toList = left ++ word ++ right ∨ record.platform.toList = left ++ word ++ right

namespace HistoryFilter

/-- **What a keyword finds**: the records that have its lowercase in the lowercase of their query or
their platform. -/
theorem accepts_keyword_iff (keyword : String) (record : HistoryRecord) :
    (⟨none, keyword⟩ : HistoryFilter).accepts record = true ↔
      Text.lowerChars (Text.strip keyword.toList) <:+: Text.lowerChars record.query.toList ∨
      Text.lowerChars (Text.strip keyword.toList) <:+: Text.lowerChars record.platform.toList := by
  simp only [accepts, acceptsPlatform, acceptsKeyword, Text.contains, Text.lower, Text.trim,
    Bool.true_and, Bool.or_eq_true, Text.occurs_iff, String.toList_ofList]

/-- A record of a query that found something. -/
def recordOf (platform query : String) : HistoryRecord :=
  ⟨"h", platform, query, 1, ⟨⟨2024, 1, 1, by decide, by decide, by decide⟩, 0, 0⟩, true, none⟩

/-- **A keyword that stands in a record is found, or not.**  A record is found by a keyword that
stands in its query or its platform as it was typed, without the blanks around it, wherever the
capital sigmas of the keyword end words there just if they do so in the keyword alone.  And a
keyword finds all records that it stands in just if its sigmas do not depend on what surrounds the
keyword: each one behind a letter has something behind it in the keyword that is not ignored, and
each one with nothing in front that counts has a letter behind it. -/
theorem verbatim_found_iff (keyword : String) :
    let f : HistoryFilter := ⟨none, keyword⟩
    let word := Text.strip keyword.toList
    (∀ (record : HistoryRecord) (left right : List Char), record.Mentions left word right →
      Text.SameSigmas left right word → f.accepts record = true) ∧
    ((∀ record : HistoryRecord, word <:+: record.query.toList ∨ word <:+: record.platform.toList →
      f.accepts record = true) ↔ Text.Steady word) := by
  intro f word
  have hkept : ∀ (record : HistoryRecord) (left right : List Char),
      record.Mentions left word right → Text.SameSigmas left right word →
        f.accepts record = true := by
    intro record left right hmentions hsame
    rw [accepts_keyword_iff]
    rcases hmentions with hquery | hplatform
    · rw [hquery]
      exact .inl hsame.infix_lowerChars
    · rw [hplatform]
      exact .inr hsame.infix_lowerChars
  refine ⟨hkept, ?_, ?_⟩
  · intro hfound
    rw [← Text.steady_iff]
    intro t ht
    have haccepts := hfound (recordOf "" (String.ofList t)) (.inl (String.toList_ofList ▸ ht))
    rcases (accepts_keyword_iff keyword _).1 haccepts with hquery | hplatform
    · simpa [recordOf] using hquery
    · -- only the empty text stands in the empty platform
      have hempty : Text.lowerChars word = [] := List.infix_nil.1 hplatform
      rw [hempty]
      exact List.nil_infix
  · rintro hsteady record (⟨left, right, hquery⟩ | ⟨left, right, hplatform⟩)
    · exact hkept record left right (.inl hquery.symm) (hsteady.sameSigmas left right)
    · exact hkept record left right (.inr hplatform.symm) (hsteady.sameSigmas left right)

/-- The beginning of a word, which ends in a sigma when it stands alone, does not find the word. -/
theorem verbatim_missed :
    ¬ ∀ (keyword : String) (record : HistoryRecord),
      Text.strip keyword.toList <:+: record.query.toList ∨
        Text.strip keyword.toList <:+: record.platform.toList →
      (⟨none, keyword⟩ : HistoryFilter).accepts record = true := by
  intro h
  have hfound := h "ΚΟΣ" (recordOf "fofa" "title=\"ΚΟΣΜΟΣ\"") (.inl (by decide))
  exact absurd hfound (by decide +kernel)

/-! ## Platforms -/

/-- **What a platform finds**: the records with its key. -/
theorem accepts_platform_iff (p : Platform) (record : HistoryRecord) :
    (⟨some p, ""⟩ : HistoryFilter).accepts record = true ↔ record.platform = p.key := by
  have hall : (⟨some p, ""⟩ : HistoryFilter).acceptsKeyword record = true := by
    have hempty : Text.lower (Text.trim "") = "" := by decide
    rw [acceptsKeyword, hempty, Text.contains, Bool.or_eq_true, Text.occurs_iff]
    exact .inl List.nil_infix
  rw [accepts, hall, Bool.and_true, acceptsPlatform]
  exact beq_iff_eq

end HistoryFilter

/-! ## Exports -/

/-- What it takes to export a past query again on a platform. -/
theorem HistoryRecord.replaysOn_iff (record : HistoryRecord) (p : Platform) :
    record.ReplaysOn p ↔ record.isExportable = true ∧ Text.blank record.query = false ∧
      record.platformKind = .ok p := by
  rw [isExportable, Bool.and_eq_true, decide_eq_true_iff]
  exact ⟨fun h => ⟨⟨h.success, h.found⟩, h.query, h.platform_eq⟩,
    fun h => ⟨h.1.1, h.1.2, h.2.2, h.2.1⟩⟩

namespace Export

variable {σ : Type}

/-- The export of a past query gives a command for a platform just if the query can be exported
again on it. -/
theorem exports_on_iff (b : Backend σ) (source : Nat) (record : HistoryRecord) (tracker : Nat)
    (s : Site σ) (p : Platform) :
    (∃ id r, (replay b source record tracker s).2.commands
      = s.commands ++ [.exportPlatform id p r]) ↔ record.ReplaysOn p := by
  rw [replay]
  cases hrequest : replayRequest record with
  | error e =>
    refine iff_of_false ?_ fun h => ?_
    · rintro ⟨id, r, hcommands⟩
      simpa using congrArg List.length hcommands
    · rw [(replayRequest_eq_ok_iff record p _).2 ⟨h, rfl⟩] at hrequest
      cases hrequest
  | ok x =>
    obtain ⟨q, r⟩ := x
    obtain ⟨hreplays, -⟩ := (replayRequest_eq_ok_iff record q r).1 hrequest
    have hgiven := commands_runTask b
      ⟨Task.platformExportId q (s.nextStamp source).1, .exporting, some q, record.query⟩ q r tracker
      (s.nextStamp source).2
    constructor
    · rintro ⟨id, r', hcommands⟩
      cases List.append_cancel_left (hgiven.symm.trans hcommands)
      exact hreplays
    · intro h
      obtain rfl : q = p := Except.ok.inj (hreplays.platform_eq.symm.trans h.platform_eq)
      exact ⟨_, _, hgiven⟩

end Export

namespace HistoryFilter

/-- **The platform of a record, as it is shown and as it is exported.**  A record is of the platform
whose key it spells, and if it can be exported, its export runs on this platform.  The filter for a
platform shows just these records, or not: it leaves out a record of the platform just if the key is
spelled in another way than as the key itself, and shows no others. -/
theorem shown_as_replayed_iff (p : Platform) (record : HistoryRecord) :
    let f : HistoryFilter := ⟨some p, ""⟩
    (record.platformKind = .ok p ↔ p.SpelledBy record.platform) ∧
    (∀ {σ : Type} (b : Backend σ) (source tracker : Nat) (s : Site σ),
      (∃ id r, (Export.replay b source record tracker s).2.commands
        = s.commands ++ [.exportPlatform id p r]) ↔
      record.isExportable = true ∧ Text.blank record.query = false ∧
        record.platformKind = .ok p) ∧
    ((f.accepts record = true ↔ record.platformKind = .ok p) ↔
      (p.SpelledBy record.platform → record.platform = p.key)) := by
  intro f
  have hkind : record.platformKind = .ok p ↔ p.SpelledBy record.platform :=
    Platform.parse_eq_ok_iff_spelledBy
  refine ⟨hkind, ?_, ?_⟩
  · intro σ b source tracker s
    rw [Export.exports_on_iff, HistoryRecord.replaysOn_iff]
  · rw [accepts_platform_iff, hkind]
    have hkey : record.platform = p.key → p.SpelledBy record.platform :=
      fun h => h ▸ p.spelledBy_key
    exact ⟨fun h => h.2, fun h => ⟨hkey, h⟩⟩

/-- A platform in capital letters with a blank before it is exported, but not shown. -/
theorem replayed_unshown :
    ¬ ∀ (p : Platform) (record : HistoryRecord),
      (⟨some p, ""⟩ : HistoryFilter).accepts record = true ↔ record.platformKind = .ok p := by
  intro h
  have hshown := (h .fofa (recordOf " FOFA" "port=80")).2 (by decide +kernel)
  exact absurd hshown (by decide +kernel)

end HistoryFilter

end AssetSearch
