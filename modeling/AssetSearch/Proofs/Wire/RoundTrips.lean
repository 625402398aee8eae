/-
# The data that travels is read as it was written

Reports, summaries, assets, pages, keys, verdicts, translations, settings, tasks, requests, errors
and past queries: whatever one of them was read from, an object or an array of its fields, with
fields missing or `null` and with further members, it is written as data that reads as the same
again.

Key definition: `Asset.IsExtra` (the further fields of an asset as they are kept).  Key statements:
one `lasting` for each kind of data, and `wire_round_trips`.
-/
import AssetSearch.Asset
import AssetSearch.History.Record
import AssetSearch.Keys.Basic
import AssetSearch.Settings
import AssetSearch.Task
import AssetSearch.Translation
import AssetSearch.Wire.Message
import AssetSearch.Proofs.Calendar.TimestampText
import AssetSearch.Proofs.Json.Records

namespace AssetSearch

open Json (Lasting)
open RecordReader

/-! ## Enumerations -/

theorem Progress.Status.lasting : Lasting ofJson toJson :=
  Json.lasting_toChoice _ key (by decide)

theorem Progress.Counter.lasting : Lasting ofJson toJson :=
  Json.lasting_toChoice _ key (by decide)

theorem Platform.lasting : Lasting ofJson toJson :=
  Json.lasting_toChoice _ key (by decide)

theorem Theme.lasting : Lasting ofJson toJson :=
  Json.lasting_toChoice _ key (by decide)

theorem TaskKind.lasting : Lasting ofJson toJson :=
  Json.lasting_toChoice _ key (by decide)

/-! ## Records

The fields are named once, in the order of the record; that the writer writes the members of these
fields is left to `rfl`. -/

theorem Progress.SummaryItem.lasting : Lasting ofJson toJson := by
  refine Lasts.lasting (by decide) (Lasts.map ?_ (lasts_required Counter.lasting)
    |>.seq (lasts_required Json.lasting_toNat64))
  intros
  rfl

theorem RawTranslation.lasting : Lasting ofJson toJson := by
  refine Lasts.lasting (by decide) (Lasts.map ?_ (lasts_required Json.lasting_toStr)
    |>.seq (lasts_required Json.lasting_toStr))
  intros
  rfl

theorem Task.lasting : Lasting ofJson toJson := by
  refine Lasts.lasting (by decide) (Lasts.map ?_ (lasts_required Json.lasting_toStr)
    |>.seq (lasts_required TaskKind.lasting)
    |>.seq (lasts_ofOption Platform.lasting)
    |>.seq (lasts_required Json.lasting_toStr))
  intros
  rfl

theorem KeyEntry.lasting : Lasting ofJson toJson := by
  refine Lasts.lasting (by decide) (Lasts.map ?_ (lasts_required Json.lasting_toStr)
    |>.seq (lasts_ofOption Json.lasting_toStr))
  intros
  rfl

theorem KeyList.lasting : Lasting ofJson toJson := by
  refine Lasts.lasting (by decide)
    (Lasts.map ?_ (lasts_optional Json.lasting_toStr.ofList (Json.restored_nil _ _))
      |>.seq (lasts_ofOption Json.lasting_toStr.ofList))
  intros
  rfl

theorem KeyVerdict.lasting : Lasting ofJson toJson := by
  refine Lasts.lasting (by decide) (Lasts.map ?_ (lasts_required Json.lasting_toBool)
    |>.seq (lasts_ofOption Json.lasting_toStr)
    |>.seq (lasts_ofOption Json.lasting_toValue))
  intros
  rfl

theorem Settings.lasting : Lasting ofJson toJson := by
  refine Lasts.lasting (by decide)
    (Lasts.map ?_ (lasts_optional Json.lasting_toStr ⟨rfl, Json.readable_string _⟩)
      |>.seq (lasts_optional Platform.lasting ⟨rfl, Json.readable_string _⟩)
      |>.seq (lasts_optional Json.lasting_toNat32 ⟨rfl, Json.readable_number _⟩)
      |>.seq (lasts_optional Json.lasting_toBool ⟨rfl, Json.readable_bool _⟩)
      |>.seq (lasts_optional Theme.lasting ⟨rfl, Json.readable_string _⟩)
      |>.seq (lasts_optional Json.lasting_toStr ⟨rfl, Json.readable_string _⟩))
  intros
  rfl

theorem Wire.Request.lasting : Lasting ofJson toJson := by
  refine Lasts.lasting (by decide) (Lasts.map ?_ (lasts_required Json.lasting_toStr)
    |>.seq (lasts_required Json.lasting_toStr)
    |>.seq (lasts_optional Json.lasting_toValue ⟨rfl, Json.readable_null⟩)
    |>.seq (lasts_ofOption Json.lasting_toNat64))
  intros
  rfl

theorem Wire.RemoteError.lasting : Lasting ofJson toJson := by
  refine Lasts.lasting (by decide) (Lasts.map ?_ (lasts_required Json.lasting_toInt32)
    |>.seq (lasts_required Json.lasting_toStr)
    |>.seq (lasts_ofOption Json.lasting_toValue))
  intros
  rfl

theorem Progress.Event.lasting : Lasting ofJson toJson := by
  refine Lasts.lasting (by decide) (Lasts.map ?_ (lasts_required Json.lasting_toStr)
    |>.seq (lasts_required Json.lasting_toDouble)
    |>.seq (lasts_required Status.lasting)
    |>.seq (lasts_optional Json.lasting_toStr ⟨rfl, Json.readable_string _⟩)
    |>.seq (lasts_ofOption Json.lasting_toStr)
    |>.seq (lasts_ofOption Json.lasting_toStr)
    |>.seq (lasts_ofOption Json.lasting_toNat32)
    |>.seq (lasts_ofOption Json.lasting_toNat32)
    |>.seq (lasts_ofOption Json.lasting_toNat64)
    |>.seq (lasts_ofOption Json.lasting_toNat64))
  intros
  rfl

/-! ## Past queries -/

theorem Progress.exists_of_readTimestamp {j : Json} {t : Timestamp}
    (h : readTimestamp j = .ok t) : ∃ s, j = .string s ∧ Timestamp.parse? s.toList = some t := by
  unfold readTimestamp at h
  split at h
  · next s =>
    split at h
    · next ht => exact ⟨s, rfl, ht.trans (congrArg some (Except.ok.inj h))⟩
    · cases h
  · cases h

theorem Timestamp.lasting : Lasting Progress.readTimestamp fun t => .string t.text where
  settled := Json.settled_of_plain fun h => by
    obtain ⟨s, rfl, -⟩ := Progress.exists_of_readTimestamp h
    rfl
  restored h := by
    obtain ⟨s, -, ht⟩ := Progress.exists_of_readTimestamp h
    refine ⟨?_, Json.readable_string _⟩
    simp only [Progress.readTimestamp, (regular_of_parse? ht).parse?_text]
  null _ h := by cases h

theorem HistoryRecord.lasting : Lasting ofJson toJson := by
  refine Lasts.lasting (by decide) (Lasts.map ?_ (lasts_required Json.lasting_toStr)
    |>.seq (lasts_required Json.lasting_toStr)
    |>.seq (lasts_required Json.lasting_toStr)
    |>.seq (lasts_required Json.lasting_toNat64)
    |>.seq (lasts_required Timestamp.lasting)
    |>.seq (lasts_required Json.lasting_toBool)
    |>.seq (lasts_ofOption Json.lasting_toStr))
  intros
  rfl

/-! ## Assets -/

namespace Asset

theorem isKnown_iff {key : String} : isKnown key = true ↔ key ∈ reader.names := by
  simp [isKnown, RecordReader.names]

theorem nodup_names : reader.names.Nodup := by
  decide

/-- The known fields stand before the further ones. -/
theorem lasts_reader :
    reader.Lasts fun ms make => ∀ extra, toJson (make extra) = .object (ms ++ extra) := by
  refine (Lasts.map ?_ (lasts_optional Json.lasting_toStr ⟨rfl, Json.readable_string _⟩)
    |>.seq (lasts_optional Json.lasting_toStr ⟨rfl, Json.readable_string _⟩)
    |>.seq (lasts_optional Json.lasting_toStr ⟨rfl, Json.readable_string _⟩)
    |>.seq (lasts_ofOption Json.lasting_toStr)
    |>.seq (lasts_ofOption Json.lasting_toStr)
    |>.seq (lasts_ofOption Json.lasting_toStr)
    |>.seq (lasts_ofOption Json.lasting_toStr)
    |>.seq (lasts_ofOption Json.lasting_toStr))
  intros
  rfl

/-- Further fields as they are kept: sorted, settled, and none of them a known field. -/
structure IsExtra (extra : List (String × Json)) : Prop where
  sorted : Json.Sorted extra
  settled : ∀ m ∈ extra, m.2.collect? = some m.2
  unknown : ∀ m ∈ extra, isKnown m.1 = false

theorem collectExtra_eq_ok_iff {members extra : List (String × Json)} :
    collectExtra members = .ok extra ↔
      ∃ ns, Json.collectMembers? (members.filter fun m => !isKnown m.1) = some ns ∧
        extra = Json.sortMembers ns := by
  unfold collectExtra
  cases Json.collectMembers? (members.filter fun m => !isKnown m.1) <;> simp [eq_comm]

theorem isExtra_of_collectExtra {members extra : List (String × Json)}
    (h : collectExtra members = .ok extra) : IsExtra extra := by
  obtain ⟨ns, hns, rfl⟩ := collectExtra_eq_ok_iff.mp h
  refine ⟨Json.sorted_sortMembers ns, fun m hm => ?_, fun m hm => ?_⟩
  · exact Json.collectMembers?_settled hns m (Json.mem_of_mem_sortMembers hm)
  · obtain ⟨l, hl, hkey, -⟩ := Json.exists_of_mem_forall₂
      (Json.collectMembers?_eq_some_iff.mp hns) (Json.mem_of_mem_sortMembers hm)
    simpa [hkey] using (List.mem_filter.mp hl).2

theorem IsExtra.notMem_names {extra : List (String × Json)} (h : IsExtra extra)
    {m : String × Json} (hm : m ∈ extra) : m.1 ∉ reader.names := by
  intro hname
  have hknown := isKnown_iff.mpr hname
  rw [h.unknown m hm] at hknown
  cases hknown

theorem IsExtra.collectExtra {members extra : List (String × Json)} (h : IsExtra extra)
    (hmembers : (members.filter fun m => !isKnown m.1) = extra) :
    collectExtra members = .ok extra := by
  refine collectExtra_eq_ok_iff.mpr ⟨extra, ?_, h.sorted.sortMembers_eq.symm⟩
  rw [hmembers]
  exact Json.collectMembers?_self_iff.mpr h.settled

/-- An asset is made of an object that passes, its known fields and its further fields. -/
theorem ofJson_eq_ok_iff {j : Json} {a : Asset} :
    ofJson j = .ok a ↔ ∃ members make extra, j = .object members ∧
      checkMembers reader.fields [] members = .ok () ∧ collectExtra members = .ok extra ∧
      reader.build members = .ok make ∧ make extra = a := by
  constructor
  · intro h
    cases j with
    | object members =>
      simp only [ofJson] at h
      cases hcheck : checkMembers reader.fields [] members with
      | error fault => simp [hcheck] at h
      | ok _ =>
        cases hextra : collectExtra members with
        | error fault => simp [hcheck, hextra] at h
        | ok extra =>
          cases hbuild : reader.build members with
          | error fault => simp [hcheck, hextra, hbuild, Except.map] at h
          | ok make =>
            refine ⟨members, make, extra, rfl, hcheck, hextra, hbuild, ?_⟩
            simpa [hcheck, hextra, hbuild, Except.map] using h
    | _ => cases h
  · rintro ⟨members, make, extra, rfl, hcheck, hextra, hbuild, rfl⟩
    simp only [ofJson, hcheck, hextra, hbuild, Except.map]

/-- Known and further fields have different keys. -/
theorem IsExtra.nodup_keys {extra : List (String × Json)} (h : IsExtra extra)
    {ms : List (String × Json)} (hkeys : (ms.map Prod.fst).Sublist reader.names) :
    ((ms ++ extra).map Prod.fst).Nodup := by
  rw [List.map_append]
  refine List.nodup_append.mpr ⟨nodup_names.sublist hkeys,
    List.pairwise_map.mpr (h.sorted.imp ne_of_lt), ?_⟩
  rintro k hk _ hl rfl
  obtain ⟨m, hm, rfl⟩ := List.mem_map.mp hl
  exact h.notMem_names hm (hkeys.subset hk)

/-- Known and further fields beside each other are told apart again. -/
theorem restored_of_written {ms extra : List (String × Json)}
    {make : List (String × Json) → Asset} (hms : reader.Written ms make) (hextra : IsExtra extra)
    (hwrite : toJson (make extra) = .object (ms ++ extra)) :
    Json.Restored ofJson toJson (make extra) := by
  have hknown : ∀ m ∈ ms, isKnown m.1 = true := fun m hm =>
    isKnown_iff.mpr (hms.keys.subset (List.mem_map_of_mem hm))
  have hfilter : ((ms ++ extra).filter fun m => !isKnown m.1) = extra := by
    rw [List.filter_append, List.filter_eq_nil_iff.mpr fun m hm => by simp [hknown m hm],
      List.filter_eq_self.mpr fun m hm => by simp [hextra.unknown m hm], List.nil_append]
  have hbuild : reader.build (ms ++ extra) = .ok make := by
    refine hms.build nodup_names _ fun f hf => ?_
    have hnone : Json.lookup f.name extra = none := Json.lookup_eq_none_iff.mpr fun m hm heq =>
      hextra.notMem_names hm (heq ▸ List.mem_map_of_mem hf)
    rw [Json.lookup_append, hnone, Option.or_none]
  refine ⟨ofJson_eq_ok_iff.mpr ⟨_, make, extra, hwrite,
    lasts_reader.checkMembers_of_build (keysDiffer_of_nodup _ (hextra.nodup_keys hms.keys)) hbuild,
    hextra.collectExtra hfilter, hbuild, rfl⟩, ?_⟩
  rw [hwrite]
  exact Json.readable_object (List.forall_mem_append.mpr
    ⟨hms.readable, fun m hm => ⟨_, hextra.settled m hm⟩⟩)

theorem lasting : Lasting ofJson toJson where
  settled he hj := by
    obtain ⟨members, make, extra, rfl, hcheck, hextra, hbuild, rfl⟩ := ofJson_eq_ok_iff.mp hj
    obtain ⟨ns, hns, rfl⟩ := Option.map_eq_some_iff.mp he
    have hns := Json.collectMembers?_eq_some_iff.mp hns
    have hunknown : Json.collectMembers? (members.filter fun m => !isKnown m.1)
        = some (ns.filter fun m => !isKnown m.1) :=
      Json.collectMembers?_eq_some_iff.mpr
        (List.rel_filter (fun m n hmn => by simp [hmn.1]) hns)
    obtain ⟨_, hsome, hsorted⟩ := collectExtra_eq_ok_iff.mp hextra
    obtain rfl := Option.some.inj (hunknown.symm.trans hsome)
    refine ofJson_eq_ok_iff.mpr ⟨_, make, extra, rfl, lasts_reader.checkMembers_settled hns hcheck,
      (isExtra_of_collectExtra hextra).collectExtra ?_,
      lasts_reader.build_sortMembers hns hcheck hbuild, rfl⟩
    rw [hsorted]
    exact Json.filter_sortMembers (fun key => !isKnown key) ns
  restored hj := by
    obtain ⟨members, make, extra, -, -, hextra, hbuild, rfl⟩ := ofJson_eq_ok_iff.mp hj
    obtain ⟨ms, hms, hwrite⟩ := lasts_reader.holds hbuild
    exact restored_of_written hms (isExtra_of_collectExtra hextra) (hwrite extra)
  null _ h := by cases h

end Asset

theorem SearchPage.lasting : Lasting ofJson toJson := by
  refine Lasts.lasting (by decide) (Lasts.map ?_ (lasts_required Json.lasting_toNat64)
    |>.seq (lasts_optional Asset.lasting.ofList (Json.restored_nil _ _)))
  intros
  rfl

/-! ## All of them -/

/-- Whatever is read is written as data that reads as the same again. -/
theorem wire_round_trips :
    Json.RoundTrips Progress.Event.ofJson Progress.Event.toJson ∧
    Json.RoundTrips Progress.SummaryItem.ofJson Progress.SummaryItem.toJson ∧
    Json.RoundTrips Asset.ofJson Asset.toJson ∧
    Json.RoundTrips SearchPage.ofJson SearchPage.toJson ∧
    Json.RoundTrips KeyList.ofJson KeyList.toJson ∧
    Json.RoundTrips KeyEntry.ofJson KeyEntry.toJson ∧
    Json.RoundTrips KeyVerdict.ofJson KeyVerdict.toJson ∧
    Json.RoundTrips RawTranslation.ofJson RawTranslation.toJson ∧
    Json.RoundTrips Settings.ofJson Settings.toJson ∧
    Json.RoundTrips Task.ofJson Task.toJson ∧
    Json.RoundTrips Wire.Request.ofJson Wire.Request.toJson ∧
    Json.RoundTrips Wire.RemoteError.ofJson Wire.RemoteError.toJson ∧
    Json.RoundTrips HistoryRecord.ofJson HistoryRecord.toJson :=
  ⟨Progress.Event.lasting.roundTrips, Progress.SummaryItem.lasting.roundTrips,
    Asset.lasting.roundTrips, SearchPage.lasting.roundTrips, KeyList.lasting.roundTrips,
    KeyEntry.lasting.roundTrips, KeyVerdict.lasting.roundTrips, RawTranslation.lasting.roundTrips,
    Settings.lasting.roundTrips, Task.lasting.roundTrips, Wire.Request.lasting.roundTrips,
    Wire.RemoteError.lasting.roundTrips, HistoryRecord.lasting.roundTrips⟩

/-- An asset with a known field that is `null`, further fields out of order and one of them
twice. -/
theorem wire_round_trips_asset :
    let j : Json := .object [("port_id", .ofInt 22), ("url", .string "a.test"), ("os", .null),
      ("city", .null), ("os", .object [("v", .ofInt 1), ("n", .string "x")])]
    let a : Asset := ⟨"a.test", "", "", none, none, none, none, none,
      [("os", .object [("n", .string "x"), ("v", .ofInt 1)]), ("port_id", .ofInt 22)]⟩
    Asset.ofJson j = .ok a ∧ Asset.ofJson a.toJson = .ok a ∧
      ∃ e, a.toJson.collect? = some e ∧ Asset.ofJson e = .ok a := by
  intro j a
  have hj : Asset.ofJson j = .ok a := rfl
  exact ⟨hj, wire_round_trips.2.2.1 j a hj⟩

/-- An array of the fields, with a platform that is `null`, makes the task that the object without a
platform makes. -/
example : Task.ofJson (.array [.string "export_7", .string "export", .null, .string "port=22"])
    = Task.ofJson (Task.toJson ⟨"export_7", .exporting, none, "port=22"⟩) := by
  rfl

end AssetSearch
