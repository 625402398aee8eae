/-
# What the backend is told

The parameters of an export tell everything apart that makes a difference to the export, and nothing
else: dates that do not count are not sent.  Every request that is written can be read, and is the
call that was made: its number, its method and its parameters; and this is what a server is handed
for a command.

Key definitions: `ExportRequest.Covers` (the dates that count), `ExportRequest.Alike`,
`Command.InWords`.  Key statements: `Command.params_exportPlatform_iff`,
`Command.params_exportAll_iff`, `Wire.Request.decodeBytes_call`, `export_params_faithful`.
-/
import AssetSearch.Proofs.Backend.Sending
import AssetSearch.Proofs.Calendar.TimestampText
import AssetSearch.Proofs.Json.FreeForm
import AssetSearch.Proofs.Json.Texts
import AssetSearch.Proofs.Wire.Framing

namespace AssetSearch

open Json (Legible maxNat32 maxNat64 maxDepth)
open Wire (Client)

/-! ## Data that is told apart -/

/-- What is read again as it was is told apart in its data. -/
theorem Json.write_inj {α : Type} (read : Json → Decoded α) {write : α → Json}
    (h : ∀ a, read (write a) = .ok a) {a b : α} : write a = write b ↔ a = b := by
  refine ⟨fun heq => ?_, congrArg write⟩
  have hread : read (write a) = read (write b) := congrArg read heq
  rw [h, h] at hread
  exact Except.ok.inj hread

theorem TimeRange.toJson_inj {t u : TimeRange} : t.toJson = u.toJson ↔ t = u :=
  Json.write_inj ofJson fun t => by cases t <;> rfl

theorem Platform.toJson_inj {p q : Platform} : p.toJson = q.toJson ↔ p = q :=
  Json.write_inj ofJson fun p => by cases p <;> rfl

theorem Json.ofNat_inj {m n : Nat} : Json.ofNat m = Json.ofNat n ↔ m = n := by
  simp [Json.ofNat]

/-- **Dates have different texts**, whatever their years are. -/
theorem Date.text_inj {d e : Date} : d.text = e.text ↔ d = e := by
  refine ⟨fun h => ?_, congrArg text⟩
  have hchars : d.chars = e.chars := String.ofList_injective h
  have hread : some (d, []) = some (e, []) :=
    calc some (d, [])
        = Timestamp.date? (d.chars ++ []) := (Timestamp.date?_chars d []).symm
      _ = Timestamp.date? (e.chars ++ []) := by rw [hchars]
      _ = some (e, []) := Timestamp.date?_chars e []
  exact congrArg Prod.fst (Option.some.inj hread)

/-- A year before the first one keeps its sign. -/
example : Date.text ⟨-44, 3, 15, by decide, by decide, by decide⟩ = "-0044-03-15" := by
  decide

/-! ## Exports -/

namespace ExportRequest

/-- The dates count, and are these: the range is a custom one and both are set. -/
def Covers (r : ExportRequest) (first last : Date) : Prop :=
  r.timeRange = .custom ∧ r.startDate = some first ∧ r.endDate = some last

theorem window?_eq_some_iff {r : ExportRequest} {first last : Date} :
    r.window? = some (first, last) ↔ r.Covers first last := by
  unfold window? Covers
  split
  · next hrange hstart hend => simp [hrange, hstart, hend]
  · next hother =>
    simp only [reduceCtorEq, false_iff]
    rintro ⟨hrange, hstart, hend⟩
    exact hother first last hrange hstart hend

theorem window?_eq_iff {r s : ExportRequest} :
    r.window? = s.window? ↔ ∀ first last, r.Covers first last ↔ s.Covers first last := by
  simp only [← window?_eq_some_iff]
  constructor
  · intro h first last
    rw [h]
  · intro h
    exact Option.ext fun w => h w.1 w.2

/-- Both requests ask for the same export: they agree in everything, but dates that do not count. -/
structure Alike (r s : ExportRequest) : Prop where
  query : r.query = s.query
  pages : r.pages = s.pages
  pageSize : r.pageSize = s.pageSize
  timeRange : r.timeRange = s.timeRange
  dates : ∀ first last, r.Covers first last ↔ s.Covers first last

/-- The texts of the days tell windows apart. -/
theorem window_eq_iff {v w : Option (Date × Date)} :
    (Json.ofOption (fun w => .string w.1.text) v = Json.ofOption (fun w => .string w.1.text) w ∧
      Json.ofOption (fun w => .string w.2.text) v = Json.ofOption (fun w => .string w.2.text) w) ↔
    v = w := by
  cases v <;> cases w <;> simp [Json.ofOption, Date.text_inj, Prod.ext_iff]

end ExportRequest

namespace Command

theorem exportParams_eq_iff {r s : ExportRequest} :
    exportParams r = exportParams s ↔ r.Alike s := by
  simp only [exportParams, List.cons.injEq, Prod.mk.injEq, true_and, and_true, Json.string.injEq,
    Json.ofNat_inj, TimeRange.toJson_inj, ExportRequest.window_eq_iff, ExportRequest.window?_eq_iff]
  constructor
  · rintro ⟨hquery, hpages, hsize, hrange, hdates⟩
    exact ⟨hquery, hpages, hsize, hrange, hdates⟩
  · rintro ⟨hquery, hpages, hsize, hrange, hdates⟩
    exact ⟨hquery, hpages, hsize, hrange, hdates⟩

/-- **An export from one platform** is told from every other one. -/
theorem params_exportPlatform_iff {id id' : String} {p p' : Platform} {r r' : ExportRequest} :
    (exportPlatform id p r).params = (exportPlatform id' p' r').params ↔
      id = id' ∧ p = p' ∧ r.Alike r' := by
  have hkeys : (exportPlatform id p r).members.map Prod.fst
      = (exportPlatform id' p' r').members.map Prod.fst := rfl
  have hnodup : ((exportPlatform id p r).members.map Prod.fst).Nodup := by
    show ["query", "pages", "pageSize", "timeRange", "startDate", "endDate", "taskId",
      "platform"].Nodup
    decide
  rw [params, params, Json.record_eq_iff hkeys hnodup]
  constructor
  · intro h
    obtain ⟨hexport, hrest⟩ := List.append_inj h rfl
    simp only [List.cons.injEq, Prod.mk.injEq, true_and, and_true, Json.string.injEq,
      Platform.toJson_inj] at hrest
    exact ⟨hrest.1, hrest.2, exportParams_eq_iff.1 hexport⟩
  · rintro ⟨rfl, rfl, halike⟩
    show exportParams r ++ _ = exportParams r' ++ _
    rw [exportParams_eq_iff.2 halike]

/-- **An export from all platforms** is told from every other one. -/
theorem params_exportAll_iff {r r' : ExportRequest} :
    (exportAll r).params = (exportAll r').params ↔ r.Alike r' := by
  have hkeys : (exportAll r).members.map Prod.fst = (exportAll r').members.map Prod.fst := rfl
  have hnodup : ((exportAll r).members.map Prod.fst).Nodup := by
    show ["query", "pages", "pageSize", "timeRange", "startDate", "endDate"].Nodup
    decide
  rw [params, params, Json.record_eq_iff hkeys hnodup]
  exact exportParams_eq_iff

/-! ## Parameters as data -/

/-- The numbers of a command are those of 32 bits. -/
def InWords : Command → Prop
  | search r => r.page ≤ maxNat32 ∧ r.pageSize ≤ maxNat32
  | exportPlatform _ _ r | exportAll r => r.pages ≤ maxNat32 ∧ r.pageSize ≤ maxNat32
  | saveSettings s => s.pageSize ≤ maxNat32
  | _ => True

end Command

/-- Neither an array nor an object, and a number only if it is an integer of 64 bits. -/
abbrev Json.Leaf (j : Json) : Prop :=
  Legible 0 j

namespace Json

theorem Leaf.collect? {j : Json} (h : Leaf j) : j.collect? = some j := by
  cases h <;> rfl

@[simp] theorem leaf_string (s : String) : Leaf (string s) :=
  .string s

@[simp] theorem leaf_bool (b : Bool) : Leaf (bool b) :=
  .bool b

theorem leaf_ofNat {n : Nat} (h : n ≤ maxNat32) : Leaf (ofNat n) := by
  have hword : maxNat32 ≤ Number.maxWord := by decide
  exact .integer ⟨by omega, by omega⟩

@[simp] theorem leaf_ofOption {α : Type} {encode : α → Json} (h : ∀ a, Leaf (encode a))
    (o : Option α) : Leaf (ofOption encode o) := by
  cases o with
  | none => exact .null
  | some a => exact h a

theorem Legible.record {n : Nat} {ms : List (String × Json)} (h : ∀ m ∈ ms, Legible n m.2) :
    Legible (n + 1) (.record ms) :=
  .object fun m hm => h m (mem_of_mem_sortMembers hm)

end Json

namespace Command

theorem leaf_exportParams {r : ExportRequest} (hpages : r.pages ≤ maxNat32)
    (hsize : r.pageSize ≤ maxNat32) : ∀ m ∈ exportParams r, Json.Leaf m.2 := by
  simp [exportParams, TimeRange.toJson, Json.leaf_ofNat hpages, Json.leaf_ofNat hsize]

theorem leaf_keyParams (platform : Platform) (key : String) (email : Option String) :
    ∀ m ∈ keyParams platform key email, Json.Leaf m.2 := by
  simp [keyParams, Platform.toJson]

/-- The parameters of most commands hold no further data. -/
theorem leaf_members {c : Command} (h : c.InWords) (hs : ∀ s, c ≠ saveSettings s) :
    ∀ m ∈ c.members, Json.Leaf m.2 := by
  cases c with
  | search r => simp [members, Platform.toJson, Json.leaf_ofNat h.1, Json.leaf_ofNat h.2]
  | exportPlatform id platform r =>
    refine List.forall_mem_append.2 ⟨leaf_exportParams h.1 h.2, ?_⟩
    simp [Platform.toJson]
  | exportAll r => exact leaf_exportParams h.1 h.2
  | addKey platform key email => exact leaf_keyParams platform key email
  | deleteKey platform key email => exact leaf_keyParams platform key email
  | validateKey platform key email => exact leaf_keyParams platform key email
  | saveSettings s => exact absurd rfl (hs s)
  | _ => simp [members, Platform.toJson]

/-- The settings are sent with sorted keys. -/
theorem sortedSettings_eq {s : Settings} (h : s.pageSize ≤ maxNat32) :
    ∃ ms, sortedSettings s = .record ms ∧ ∀ m ∈ ms, Json.Leaf m.2 := by
  obtain ⟨ms, hms⟩ : ∃ ms, s.toJson = .object ms := ⟨_, rfl⟩
  have hleaf : ∀ m ∈ ms, Json.Leaf m.2 := by
    obtain rfl := Json.object.inj hms
    simp [Platform.toJson, Theme.toJson, Json.leaf_ofNat h]
  have hself := Json.collectMembers?_self_iff.2 fun m hm => (hleaf m hm).collect?
  refine ⟨ms, ?_, hleaf⟩
  rw [sortedSettings, hms, Json.collect?, hself]
  rfl

/-- Every parameter is settled free-form data, and at most the settings hold further data. -/
theorem legible_member {c : Command} (h : c.InWords) :
    ∀ m ∈ c.members, Legible 1 m.2 ∧ m.2.collect? = some m.2 := by
  by_cases hs : ∃ s, c = saveSettings s
  · obtain ⟨s, rfl⟩ := hs
    obtain ⟨ms, hms, hleaf⟩ := sortedSettings_eq h
    refine List.forall_mem_singleton.2 ?_
    rw [hms]
    exact ⟨.record hleaf, Json.collect?_object_sortMembers fun m hm => (hleaf m hm).collect?⟩
  · intro m hm
    have hleaf : Json.Leaf m.2 := leaf_members h (fun s hc => hs ⟨s, hc⟩) m hm
    exact ⟨hleaf.mono (Nat.zero_le 1), hleaf.collect?⟩

theorem legible_params {c : Command} (h : c.InWords) : Legible 2 c.params :=
  .record fun m hm => (legible_member h m hm).1

theorem settled_params {c : Command} (h : c.InWords) : c.params.collect? = some c.params :=
  Json.collect?_object_sortMembers fun m hm => (legible_member h m hm).2

end Command

/-! ## Requests -/

namespace Wire.Request

theorem ofJson_call {params : Json} {id : Nat} (method : String)
    (hparams : params.collect? = some params) (hid : id ≤ maxNat64) :
    ofJson (call method params id).toJson = .ok (call method params id) := by
  -- each of the four fields is read from the member that was written for it
  have hvalue : params.toValue = .ok params := by rw [Json.toValue, hparams]
  have hnat : Json.toOption Json.toNat64 (.ofNat id) = .ok (some id) := by
    show (Except.map Int.toNat (if _ then _ else _)).map some = _
    rw [if_pos ⟨Int.natCast_nonneg id, Int.ofNat_le.2 hid⟩]
    rfl
  simp [ofJson, toJson, call, reader, RecordReader.read, RecordReader.checkMembers,
    RecordReader.andThen, RecordReader.required, RecordReader.optional, RecordReader.const,
    Functor.map, Seq.seq, Json.member, Json.memberIfSome, Json.lookup, Json.toStr, Except.map,
    hvalue, hnat]

/-- **A request that is written is read as the request.** -/
theorem decodeBytes_call {params : Json} {id : Nat} (method : String)
    (hlegible : Legible (maxDepth - 1) params) (hparams : params.collect? = some params)
    (hid : id ≤ maxNat64) :
    Json.decodeBytes ofJson (call method params id).toJson.bytes = .ok (call method params id) := by
  have hword : maxNat64 = Number.maxWord := rfl
  have htext : Legible maxDepth (call method params id).toJson := by
    refine .object (List.forall_mem_cons.2 ⟨.string _, List.forall_mem_cons.2 ⟨.string _,
      List.forall_mem_cons.2 ⟨hlegible, List.forall_mem_singleton.2 (.integer ⟨?_, ?_⟩)⟩⟩⟩)
    · omega
    · omega
  rw [Json.decodeBytes, htext.parse?_bytes le_rfl]
  exact ofJson_call method hparams hid

end Wire.Request

/-- The request for a command is read as the call that was made. -/
theorem Command.decodeBytes_call {c : Command} {id : Nat} (hwords : c.InWords)
    (hid : id ≤ maxNat64) :
    Json.decodeBytes Wire.Request.ofJson (Wire.Request.call c.name c.params id).toJson.bytes
      = .ok ⟨"2.0", c.name, c.params, some id⟩ := by
  have hlegible := (legible_params hwords).mono (by decide : 2 ≤ maxDepth - 1)
  exact Wire.Request.decodeBytes_call c.name hlegible (settled_params hwords) hid

/-! ## The result -/

/-- **Export parameters are faithful.**  The parameters of two exports are the same just if the
exports are alike; in every run of a client, the request of each call for a command is the call that
was made, under its number, and is found again in the frame that is sent, whatever follows it; and a
command that is given to any server, whatever the client has been through, begins the call of its
name with its parameters and hands the server just that request. -/
theorem export_params_faithful :
    (∀ (id id' : String) (p p' : Platform) (r r' : ExportRequest),
      (Command.exportPlatform id p r).params = (Command.exportPlatform id' p' r').params ↔
        id = id' ∧ p = p' ∧ r.Alike r') ∧
    (∀ r r' : ExportRequest,
      (Command.exportAll r).params = (Command.exportAll r').params ↔ r.Alike r') ∧
    (∀ (address : String) (as : List Client.Action) (k : Nat) (c : Command),
      (as.filterMap Client.Action.begun?)[k]? = some (c.name, c.params) →
      c.InWords → k + 1 ≤ maxNat64 →
      ∃ call ∈ ((Client.connected address).run as).calls, call.id = k + 1 ∧ call.method = c.name ∧
        Json.decodeBytes Wire.Request.ofJson call.request
          = .ok ⟨"2.0", c.name, c.params, some (k + 1)⟩ ∧
        ∀ frame rest, Wire.Frame.write call.request = .ok frame →
          Wire.Frame.read (frame ++ rest) = .frame call.request rest) ∧
    ∀ (ω : Type) (server : Server ω) (state : ω) (address : String) (as : List Client.Action)
      (c : Command),
      let before : Remote ω := ⟨(Client.connected address).run as, state⟩
      (∃ outcome,
        Remote.Sends server c.name c.params before (Remote.backend server c before).1.events outcome
          (Remote.backend server c before).2 ∧
        (Remote.backend server c before).1.outcome = Remote.resultOf c outcome) ∧
      (c.InWords → before.client.nextId ≤ maxNat64 →
        Json.decodeBytes Wire.Request.ofJson (before.client.nextRequest c.name c.params)
          = .ok ⟨"2.0", c.name, c.params, some before.client.nextId⟩) := by
  refine ⟨fun _ _ _ _ _ _ => Command.params_exportPlatform_iff,
    fun _ _ => Command.params_exportAll_iff, ?_, ?_⟩
  · intro address as k c hbegun hwords hid
    -- a call keeps its number, its method and its request from its start on
    have hlabels := (Client.sound_connected address).map_label_run rfl as
    have hlabel : (((Client.connected address).run as).calls.map Client.label)[k]?
        = some (Client.labelAt k (c.name, c.params)) := by
      rw [hlabels, List.getElem?_mapIdx, hbegun]
      rfl
    obtain ⟨call, hcall, heq⟩ := List.mem_map.1 (List.mem_of_getElem? hlabel)
    obtain ⟨hnumber, hmethod, hrequest⟩ : call.id = k + 1 ∧ call.method = c.name ∧
        call.request = (Wire.Request.call c.name c.params (k + 1)).toJson.bytes := by
      simpa [Client.label, Client.labelAt] using heq
    refine ⟨call, hcall, hnumber, hmethod, ?_, fun _ rest h => Wire.Frame.read_write h rest⟩
    rw [hrequest]
    exact Command.decodeBytes_call hwords hid
  · intro ω server state address as c before
    have hsound : before.client.Sound := (Client.sound_connected address).run as
    exact ⟨Remote.sends_backend server c hsound, Command.decodeBytes_call⟩

/-- An export of the days up to one in a year of five digits. -/
def ExportRequest.since (first : Date) : ExportRequest :=
  (new "port=22" 3 100).withCustomRange first ⟨12024, 2, 29, by decide, by decide, by decide⟩

/-- An export from a year before the first one, as the second call of a client; the year without its
sign is another one.  Given to a server that keeps its requests, it is the only one there. -/
theorem export_params_faithful_ancient :
    let ancient : Date := ⟨-44, 3, 15, by decide, by decide, by decide⟩
    let other : Date := ⟨44, 3, 15, by decide, by decide, by decide⟩
    let c := Command.exportPlatform "export_2" .fofa (.since ancient)
    let first : Client.Action := .begin Command.settings.name Command.settings.params
    let as := [first, .acquire 1 .answered, .begin c.name c.params, .receive 0 [0, 0]]
    let server : Server (List (List UInt8)) := fun request kept => (⟨[], true⟩, kept ++ [request])
    (as.filterMap Client.Action.begun?)[1]? = some (c.name, c.params) ∧
    c.InWords ∧ 1 + 1 ≤ maxNat64 ∧
    c.params ≠ (Command.exportPlatform "export_2" .fofa (.since other)).params ∧
    (∃ call ∈ ((Client.connected "127.0.0.1:7420").run as).calls,
      Json.decodeBytes Wire.Request.ofJson call.request
        = .ok ⟨"2.0", "export_results_with_progress", c.params, some 2⟩) ∧
    ∃ request,
      (Remote.backend server c ⟨(Client.connected "127.0.0.1:7420").run [first], []⟩).2.server
        = [request] ∧
      Json.decodeBytes Wire.Request.ofJson request
        = .ok ⟨"2.0", "export_results_with_progress", c.params, some 2⟩ := by
  intro ancient other c first as server
  have hbegun : (as.filterMap Client.Action.begun?)[1]? = some (c.name, c.params) := rfl
  have hwords : c.InWords := ⟨by decide, by decide⟩
  have hid : 1 + 1 ≤ maxNat64 := by decide
  obtain ⟨hplatform, -, hcalls, hservers⟩ := export_params_faithful
  refine ⟨hbegun, hwords, hid, ?_, ?_, ?_⟩
  · intro hsame
    have hdates := ((hplatform _ _ _ _ _ _).1 hsame).2.2.dates
    obtain ⟨-, hfirst, -⟩ := (hdates ancient _).1 ⟨rfl, rfl, rfl⟩
    revert hfirst
    decide
  · obtain ⟨call, hcall, -, -, hrequest, -⟩ := hcalls "127.0.0.1:7420" as 1 c hbegun hwords hid
    exact ⟨call, hcall, hrequest⟩
  · obtain ⟨⟨outcome, hsends, -⟩, hdecodes⟩ :=
      hservers (List (List UInt8)) server [] "127.0.0.1:7420" [first] c
    have hshort : (((Client.connected "127.0.0.1:7420").run [first]).nextRequest c.name
        c.params).length ≤ Wire.Frame.maxLength := by
      decide +kernel
    have hhanded := hsends.handed
    rw [if_pos hshort] at hhanded
    exact ⟨_, hhanded, hdecodes hwords hid⟩

end AssetSearch
