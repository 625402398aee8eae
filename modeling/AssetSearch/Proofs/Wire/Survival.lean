/-
# Nothing that a platform reports is lost

An asset is written with every key of the object that it was read from, each with a value that says
the same: the known fields, unless they are `null`, and all further ones.  Nothing else is written
but an empty text for an address that was missing.  The assets of a page are written in the order in
which they were read.

Key definitions: `Asset.kept`, `Asset.Survives`, `SearchPage.entries`.  Key statements:
`Asset.lookup_known`, `Asset.rel_lookup_extra`, `Asset.survives_toJson`, `fields_survive`.
-/
import AssetSearch.Proofs.Json.Sameness
import AssetSearch.Proofs.Wire.RoundTrips

namespace AssetSearch

open Json (Collects Same lookup value?)
open RecordReader

/-! ## Assets -/

namespace Asset

/-- The known fields that are written in any case. -/
def addresses : List String :=
  ["url", "ip", "port"]

/-- The known fields that may be missing. -/
def details : List String :=
  ["web_title", "country", "province", "city", "server"]

/-- What is kept of the value of a key, if it has one. -/
def kept (key : String) (found : Option Json) : Option Json :=
  if key ∈ addresses then some (found.getD (.string ""))
  else if key ∈ details then found.filter fun j => !j.isNull
  else found

theorem names_reader : reader.names = addresses ++ details :=
  rfl

theorem kept_of_notMem_names {key : String} (h : key ∉ reader.names) (found : Option Json) :
    kept key found = found := by
  rw [names_reader, List.mem_append, not_or] at h
  rw [kept, if_neg h.1, if_neg h.2]

/-- The known fields are written with what is kept of them. -/
theorem keeps_reader :
    reader.Keeps kept fun out make => ∀ extra, toJson (make extra) = .object (out ++ extra) := by
  refine (Keeps.map ?_ (keeps_text fun _ => rfl)
    |>.seq (keeps_text fun _ => rfl)
    |>.seq (keeps_text fun _ => rfl)
    |>.seq (keeps_optionalText fun _ => rfl)
    |>.seq (keeps_optionalText fun _ => rfl)
    |>.seq (keeps_optionalText fun _ => rfl)
    |>.seq (keeps_optionalText fun _ => rfl)
    |>.seq (keeps_optionalText fun _ => rfl))
  intros
  rfl

/-- A known field stands in the object at most once. -/
theorem value?_known {members : List (String × Json)}
    (h : checkMembers reader.fields [] members = .ok ()) {key : String}
    (hkey : key ∈ reader.names) : value? key members = lookup key members := by
  obtain ⟨f, hf, rfl⟩ := List.mem_map.mp hkey
  exact (checkMembers_eq_ok_iff.mp h).1.lookup_reverse hf

/-- **A further field is kept** with a value that says the same. -/
theorem rel_lookup_extra {members extra : List (String × Json)}
    (h : collectExtra members = .ok extra) {key : String} (hkey : key ∉ reader.names) :
    Option.Rel Same (value? key members) (lookup key extra) := by
  obtain ⟨ns, hns, rfl⟩ := collectExtra_eq_ok_iff.mp h
  have hunknown : isKnown key = false := by
    rw [← Bool.not_eq_true, isKnown_iff]
    exact hkey
  have hsame : value? key (members.filter fun m => !isKnown m.1) = value? key members := by
    rw [value?, ← List.filter_reverse, Json.lookup_filter (fun key => !isKnown key), hunknown]
    rfl
  rw [Json.lookup_sortMembers, ← hsame]
  exact Json.value?_of_forall₂ (Json.same_of_collectMembers? hns) key

/-- An object with exactly what is kept of another one. -/
def Survives (j e : Json) : Prop :=
  ∃ members fields, j = .object members ∧ e = .object fields ∧ (fields.map Prod.fst).Nodup ∧
    ∀ key, Option.Rel Same (kept key (value? key members)) (lookup key fields)

/-- **What an asset was read from survives** when it is written. -/
theorem survives_toJson {j : Json} {a : Asset} (h : ofJson j = .ok a) : Survives j a.toJson := by
  obtain ⟨members, make, extra, rfl, hcheck, hextra, hbuild, rfl⟩ := ofJson_eq_ok_iff.mp h
  obtain ⟨out, hwrite, hout, hlookup⟩ := keeps_reader nodup_names members make hbuild
  have hunknown := isExtra_of_collectExtra hextra
  refine ⟨members, out ++ extra, rfl, hwrite extra, hunknown.nodup_keys hout, fun key => ?_⟩
  rw [Json.lookup_append]
  by_cases hkey : key ∈ reader.names
  · have hnone : lookup key extra = none := Json.lookup_eq_none_iff.mpr
      fun m hm heq => hunknown.notMem_names hm (heq ▸ hkey)
    rw [hnone, Option.or_none, hlookup key hkey, value?_known hcheck hkey]
    cases kept key (lookup key members) with
    | none => exact .none
    | some j => exact .some (.refl j)
  · have hnone : lookup key out = none := Json.lookup_eq_none_iff.mpr
      fun m hm heq => hkey (heq ▸ hout.subset (List.mem_map_of_mem hm))
    rw [hnone, Option.none_or, kept_of_notMem_names hkey]
    exact rel_lookup_extra hextra hkey

end Asset

/-! ## Pages -/

namespace SearchPage

/-- The items of an array; none if there is no array. -/
def itemsOf : Option Json → List Json
  | some (.array items) => items
  | _ => []

/-- The data of the assets of a page: a field of an object, or the second item of an array. -/
def entries : Json → List Json
  | .object members => itemsOf (lookup "results" members)
  | .array items => itemsOf items[1]?
  | _ => []

theorem results_of_build {ms : List (String × Json)} {p : SearchPage}
    (h : reader.build ms = .ok p) :
    (itemsOf (lookup "results" ms)).Forall₂ (fun j a => Asset.ofJson j = .ok a) p.results := by
  obtain ⟨make, results, hmake, hresults, rfl⟩ := build_seq_eq_ok_iff.mp h
  obtain ⟨_, total, hmk, -, rfl⟩ := build_seq_eq_ok_iff.mp hmake
  obtain rfl := Except.ok.inj hmk
  simp only [RecordReader.optional] at hresults
  cases hfound : lookup "results" ms with
  | none =>
    rw [hfound] at hresults
    obtain rfl := Except.ok.inj hresults
    exact .nil
  | some j =>
    rw [hfound] at hresults
    cases j with
    | array items => exact Json.readAll_eq_ok_iff.mp hresults
    | _ => cases hresults

theorem results_of_ofJson {j : Json} {p : SearchPage} (h : ofJson j = .ok p) :
    (entries j).Forall₂ (fun j a => Asset.ofJson j = .ok a) p.results := by
  unfold ofJson RecordReader.read at h
  split at h
  · split at h
    · cases h
    · exact results_of_build h
  · next items =>
    split at h
    · cases h
    · have hsecond : lookup "results" (["total", "results"].zip items) = items[1]? := by
        rcases items with _ | ⟨total, _ | ⟨results, rest⟩⟩ <;> rfl
      have hresults := results_of_build h
      rwa [show reader.fields.map FieldRule.name = ["total", "results"] from rfl, hsecond]
        at hresults
  · cases h

end SearchPage

/-- **Nothing that a platform reports is lost.**  An asset that can be read is written with exactly
what is kept of its object: every key, with a value that says the same, other than known fields that
are `null`; and the addresses, empty if they were missing.  So are the assets of a page, in their
order. -/
theorem fields_survive :
    (∀ j a, Asset.ofJson j = .ok a → Asset.Survives j a.toJson) ∧
    ∀ j p, SearchPage.ofJson j = .ok p →
      ∃ written, p.toJson.get? "results" = some (.array written) ∧
        (SearchPage.entries j).Forall₂ Asset.Survives written := by
  refine ⟨fun j a h => Asset.survives_toJson h, fun j p h => ?_⟩
  refine ⟨p.results.map Asset.toJson, rfl, ?_⟩
  rw [List.forall₂_map_right_iff]
  exact (SearchPage.results_of_ofJson h).imp fun j a hja => Asset.survives_toJson hja

/-- An asset without an address but one, with a `null` among the known fields and one among the
further ones, and with data inside; it stands on a page that is an array. -/
theorem fields_survive_nested :
    let j : Json := .object [("os", .null), ("ip", .string "10.0.0.1"), ("city", .null),
      ("geo", .object [("lon", .ofInt 1), ("lat", .array [.null])])]
    let a : Asset := ⟨"", "10.0.0.1", "", none, none, none, none, none,
      [("geo", .object [("lat", .array [.null]), ("lon", .ofInt 1)]), ("os", .null)]⟩
    let p : SearchPage := ⟨7, [a]⟩
    Asset.ofJson j = .ok a ∧ Asset.Survives j a.toJson ∧
      SearchPage.ofJson (.array [.ofNat 7, .array [j]]) = .ok p ∧
      ∃ written, p.toJson.get? "results" = some (.array written) ∧
        [j].Forall₂ Asset.Survives written := by
  intro j a p
  have hj : Asset.ofJson j = .ok a := rfl
  have hp : SearchPage.ofJson (.array [.ofNat 7, .array [j]]) = .ok p := rfl
  obtain ⟨hasset, hpage⟩ := fields_survive
  exact ⟨hj, hasset j a hj, hp, hpage _ p hp⟩

end AssetSearch
