/-
# Translating to all other platforms

The backend answers with translations for platforms that it names by texts.  Those for known
platforms are all handed on, in their order, and the others are left out.  Nothing looks at the
platform that the query was written for: so it is left out just if the backend leaves it out.

Key definitions: `Platform.NamedBy`, `Translation.Known`.  Key statements:
`Platform.parse_eq_ok_iff`, `Translation.Known.omits_iff`,
`Translation.translations_omit_source_iff`.
-/
import Mathlib.Tactic.Common
import AssetSearch.Translation.Convert

namespace AssetSearch

/-! ## The names of platforms -/

namespace Platform

/-- A text names a platform: trimmed and in lower case, it is the platform's key. -/
def NamedBy (p : Platform) (text : String) : Prop :=
  Text.lower (Text.trim text) = p.key

theorem key_inj {p q : Platform} (h : p.key = q.key) : p = q := by
  cases p <;> cases q <;> first | rfl | (revert h; decide)

theorem ofKey?_eq_some_iff {s : String} {p : Platform} : ofKey? s = some p ↔ s = p.key := by
  constructor
  · intro h
    have hkey := List.find?_some h
    exact (beq_iff_eq.1 hkey).symm
  · rintro rfl
    cases p <;> rfl

/-- **Which platform a text is read as**: the one that it names. -/
theorem parse_eq_ok_iff {text : String} {p : Platform} : parse text = .ok p ↔ p.NamedBy text := by
  rw [NamedBy, ← ofKey?_eq_some_iff, parse]
  cases ofKey? (Text.lower (Text.trim text)) with
  | none => simp
  | some q => simp

/-- A text names at most one platform. -/
theorem NamedBy.unique {p q : Platform} {text : String} (hp : p.NamedBy text)
    (hq : q.NamedBy text) : p = q :=
  key_inj (hp.symm.trans hq)

end Platform

namespace Translation

/-! ## Known platforms -/

/-- The translations for known platforms among those of the backend: all of them, in their order. -/
inductive Known : List RawTranslation → List Translation → Prop where
  | nil : Known [] []
  /-- A translation for a known platform is kept, with its query. -/
  | named {raw : RawTranslation} {p : Platform} {rest : List RawTranslation}
      {ts : List Translation} (hp : p.NamedBy raw.platform) (hrest : Known rest ts) :
      Known (raw :: rest) (⟨p, raw.query⟩ :: ts)
  /-- A translation for another platform is left out. -/
  | unnamed {raw : RawTranslation} {rest : List RawTranslation} {ts : List Translation}
      (hraw : ∀ p : Platform, ¬ p.NamedBy raw.platform) (hrest : Known rest ts) :
      Known (raw :: rest) ts

theorem ofRaw?_eq_some_iff {raw : RawTranslation} {t : Translation} :
    ofRaw? raw = some t ↔ t.platform.NamedBy raw.platform ∧ t.query = raw.query := by
  rw [← Platform.parse_eq_ok_iff, ofRaw?]
  obtain ⟨p, query⟩ := t
  cases Platform.parse raw.platform with
  | error e => simp
  | ok q => simp [eq_comm]

theorem ofRaw?_eq_none_iff {raw : RawTranslation} :
    ofRaw? raw = none ↔ ∀ p : Platform, ¬ p.NamedBy raw.platform := by
  simp only [← Platform.parse_eq_ok_iff, ofRaw?]
  cases Platform.parse raw.platform with
  | error e => simp
  | ok q => simp

theorem known_filterMap (raws : List RawTranslation) : Known raws (raws.filterMap ofRaw?) := by
  induction raws with
  | nil => exact .nil
  | cons raw raws ih =>
    cases hraw : ofRaw? raw with
    | none =>
      rw [List.filterMap_cons_none hraw]
      exact .unnamed (ofRaw?_eq_none_iff.1 hraw) ih
    | some t =>
      rw [List.filterMap_cons_some hraw]
      obtain ⟨hp, hquery⟩ := ofRaw?_eq_some_iff.1 hraw
      obtain ⟨p, query⟩ := t
      obtain rfl : query = raw.query := hquery
      exact .named hp ih

/-- The translations that are kept are for the platforms that the backend has named. -/
theorem Known.mem_iff {raws : List RawTranslation} {ts : List Translation} (h : Known raws ts)
    (t : Translation) :
    t ∈ ts ↔ ∃ raw ∈ raws, t.platform.NamedBy raw.platform ∧ t.query = raw.query := by
  induction h with
  | nil => simp
  | @named raw p rest ts hp hrest ih =>
    simp only [List.mem_cons, ih, exists_eq_or_imp]
    refine or_congr_left ?_
    constructor
    · rintro rfl
      exact ⟨hp, rfl⟩
    · rintro ⟨ht, hquery⟩
      obtain ⟨q, query⟩ := t
      obtain rfl : q = p := ht.unique hp
      obtain rfl : query = raw.query := hquery
      rfl
  | @unnamed raw rest ts hraw hrest ih =>
    simp only [List.mem_cons, ih, exists_eq_or_imp]
    exact (or_iff_right fun hnamed => hraw t.platform hnamed.1).symm

/-- **Which platforms are left out**: those that the backend does not name. -/
theorem Known.omits_iff {raws : List RawTranslation} {ts : List Translation} (h : Known raws ts)
    (p : Platform) :
    (∀ t ∈ ts, t.platform ≠ p) ↔ ∀ raw ∈ raws, ¬ p.NamedBy raw.platform := by
  constructor
  · intro homits raw hmem hnamed
    exact homits ⟨p, raw.query⟩ ((h.mem_iff _).2 ⟨raw, hmem, hnamed, rfl⟩) rfl
  · rintro homits t hmem rfl
    obtain ⟨raw, hraw, hnamed, -⟩ := (h.mem_iff t).1 hmem
    exact homits raw hraw hnamed

/-! ## The result -/

variable {σ : Type}

/-- A query that is not blank is sent as it is without the blanks around it. -/
theorem convertToAll_eq {query : String} (hquery : Text.blank query = false) (b : Backend σ)
    (source : Platform) (s : Site σ) :
    (convertToAll b query source s).1
      = Except.map (fun raws : List RawTranslation => raws.filterMap ofRaw?)
          (s.invoke b (.convertToAll (Text.trim query) source)).1 := by
  rw [convertToAll, trimmedQuery, Text.filled?, hquery]
  rfl

/-- **A translation to all platforms leaves out the source, or not.**  Whatever the backend answers,
the translations for known platforms are handed on, all of them and in their order, and no others;
among them is none for the platform that the query was written for, just if the backend has named
that platform nowhere, in no spelling. -/
theorem translations_omit_source_iff (b : Backend σ) (query : String) (source : Platform)
    (s : Site σ) (raws : List RawTranslation) (hquery : Text.blank query = false)
    (hanswer : (s.invoke b (.convertToAll (Text.trim query) source)).1 = .ok raws) :
    ∃ ts, (convertToAll b query source s).1 = .ok ts ∧ Known raws ts ∧
      ((∀ t ∈ ts, t.platform ≠ source) ↔ ∀ raw ∈ raws, ¬ source.NamedBy raw.platform) := by
  refine ⟨raws.filterMap ofRaw?, ?_, known_filterMap raws, (known_filterMap raws).omits_iff source⟩
  rw [convertToAll_eq hquery, hanswer]
  rfl

/-- A backend that translates every query to the platforms with some names. -/
def naming (names : List String) : Backend Unit
  | .convertToAll query _, _ => (⟨[], .ok (names.map fun name => ⟨name, query⟩)⟩, ())
  | _, _ => (⟨[], .error .zeroPages⟩, ())

/-- A site on which nothing has happened. -/
def untouched : Site Unit :=
  ⟨(), .new [], [], 0, []⟩

/-- A backend that names two known platforms, one of them twice and in capitals, and another one. -/
theorem translations_omit_source_named :
    let raws : List RawTranslation :=
      [⟨"Quake ", "port=22"⟩, ⟨"shodan", "port=22"⟩, ⟨"hunter", "port=22"⟩, ⟨"quake", "port=22"⟩]
    (untouched.invoke (naming ["Quake ", "shodan", "hunter", "quake"])
      (.convertToAll (Text.trim " port=22") .fofa)).1 = .ok raws ∧
    Text.blank " port=22" = false ∧
    ∃ ts, (convertToAll (naming ["Quake ", "shodan", "hunter", "quake"])
      " port=22" .fofa untouched).1 = .ok ts ∧ Known raws ts ∧ ∀ t ∈ ts, t.platform ≠ .fofa := by
  intro raws
  have hanswer : (untouched.invoke (naming ["Quake ", "shodan", "hunter", "quake"])
      (.convertToAll (Text.trim " port=22") .fofa)).1 = .ok raws := by
    have htrim : Text.trim " port=22" = "port=22" := by decide +kernel
    rw [htrim]
    rfl
  have hquery : Text.blank " port=22" = false := by decide
  obtain ⟨ts, hts, hknown, homits⟩ :=
    translations_omit_source_iff _ " port=22" .fofa untouched raws hquery hanswer
  refine ⟨hanswer, hquery, ts, hts, hknown, homits.2 ?_⟩
  simp only [Platform.NamedBy]
  decide +kernel

/-- A translation to the source itself is handed on like the others. -/
theorem translated_to_source :
    ¬ ∀ (b : Backend Unit) (query : String) (source : Platform) (s : Site Unit)
      (ts : List Translation), (convertToAll b query source s).1 = .ok ts →
        ∀ t ∈ ts, t.platform ≠ source := by
  intro h
  have htranslated : (convertToAll (naming [" FOFA"]) "port=22" .fofa untouched).1
      = .ok [⟨.fofa, "port=22"⟩] := by decide +kernel
  exact h _ _ _ _ _ htranslated _ List.mem_cons_self rfl

end Translation

end AssetSearch
