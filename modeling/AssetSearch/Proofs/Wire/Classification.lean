/-
# What an object is taken for

An object is told apart by five of its keys.  It is a notification if it names a method and carries
no id, and a reply otherwise; everything else in it is passed over, and so is the order of its
members.  An object that repeats one of the five keys, or in which one of them has a value of
another kind, is no message.

Key definitions: `Envelope.keys`, `Envelope.given`, `Envelope.Proper`, `Envelope.Tells`.  Key
statements: `Envelope.read_eq_ok_iff`, `Envelope.proper_iff`, `Envelope.tells_of_read`,
`Envelope.read_of_agree`, `Incoming.message_of_object`.
-/
import AssetSearch.Proofs.Json.Naturals
import AssetSearch.Proofs.Json.Sameness
import AssetSearch.Proofs.Json.Words
import AssetSearch.Proofs.Wire.RoundTrips

namespace AssetSearch.Wire

open Json (Same lookup)
open RecordReader

namespace Envelope

/-! ## The five keys -/

/-- The keys by which an object is told apart. -/
def keys : List String :=
  ["method", "params", "id", "result", "error"]

/-- The value of a key; `null` if there is none. -/
def given (ms : List (String × Json)) (key : String) : Json :=
  (lookup key ms).getD .null

/-- The object can be a message: none of the five keys repeats, the method is a text and the error
an error, unless they are missing or `null`, and the other values can be read. -/
structure Proper (ms : List (String × Json)) : Prop where
  once : ((ms.map Prod.fst).filter fun key => key ∈ keys).Nodup
  method : given ms "method" = .null ∨ ∃ s, given ms "method" = .string s
  error : given ms "error" = .null ∨ ∃ e, RemoteError.ofJson (given ms "error") = .ok e
  readable : ∀ key ∈ ["params", "id", "result"], (given ms key).Readable

/-- A value that is taken as free-form data: it says what was sent. -/
structure Taken (sent taken : Json) : Prop where
  collected : sent.collect? = some taken
  same : Same sent taken

/-- What a reply carries: the error if there is one, and the result if there is none. -/
inductive Carries (ms : List (String × Json)) : ReplyOutcome → Prop where
  | error {e : RemoteError} (failed : given ms "error" ≠ .null)
      (read : RemoteError.ofJson (given ms "error") = .ok e) : Carries ms (.error e)
  | result {v : Json} (fine : given ms "error" = .null) (taken : Taken (given ms "result") v) :
      Carries ms (.ok v)

/-- The object names a method and carries no id. -/
def Notifies (ms : List (String × Json)) : Prop :=
  (∃ method, given ms "method" = .string method) ∧ given ms "id" = .null

/-- The message that the values of the five keys make. -/
inductive Tells (ms : List (String × Json)) : Incoming → Prop where
  | notification {method : String} {params : Json} (notifies : Notifies ms)
      (named : given ms "method" = .string method) (taken : Taken (given ms "params") params) :
      Tells ms (.notification method params)
  | reply {id : Option Nat} {outcome : ReplyOutcome} (other : ¬ Notifies ms)
      (numbered : ∀ n, id = some n ↔ given ms "id" = .ofNat n ∧ n ≤ Json.maxNat64)
      (carried : Carries ms outcome) : Tells ms (.reply id outcome)

/-! ## Reading an envelope -/

/-- A field that may be missing or `null`. -/
theorem build_optional {α : Type} (key : String) (read : Json → Decoded α)
    (ms : List (String × Json)) :
    (RecordReader.optional key none (Json.toOption read)).build ms
      = Json.toOption read (given ms key) := by
  simp only [RecordReader.optional, given]
  cases lookup key ms <;> rfl

theorem build_eq_ok_iff {ms : List (String × Json)} {e : Envelope} :
    reader.build ms = .ok e ↔
      Json.toOption Json.toStr (given ms "method") = .ok e.method ∧
      Json.toOption Json.toValue (given ms "params") = .ok e.params ∧
      Json.toOption Json.toValue (given ms "id") = .ok e.id ∧
      Json.toOption Json.toValue (given ms "result") = .ok e.result ∧
      Json.toOption RemoteError.ofJson (given ms "error") = .ok e.error := by
  rw [← build_optional, ← build_optional, ← build_optional, ← build_optional, ← build_optional]
  constructor
  · intro h
    obtain ⟨_, error, h₄, herror, rfl⟩ := build_seq_eq_ok_iff.mp h
    obtain ⟨_, result, h₃, hresult, rfl⟩ := build_seq_eq_ok_iff.mp h₄
    obtain ⟨_, id, h₂, hid, rfl⟩ := build_seq_eq_ok_iff.mp h₃
    obtain ⟨_, params, h₁, hparams, rfl⟩ := build_seq_eq_ok_iff.mp h₂
    obtain ⟨_, method, hmk, hmethod, rfl⟩ := build_seq_eq_ok_iff.mp h₁
    cases hmk
    exact ⟨hmethod, hparams, hid, hresult, herror⟩
  · rintro ⟨hmethod, hparams, hid, hresult, herror⟩
    have hmk : (RecordReader.const mk).build ms = .ok mk := rfl
    have h₁ := build_seq_eq_ok_iff.mpr ⟨mk, e.method, hmk, hmethod, rfl⟩
    have h₂ := build_seq_eq_ok_iff.mpr ⟨_, e.params, h₁, hparams, rfl⟩
    have h₃ := build_seq_eq_ok_iff.mpr ⟨_, e.id, h₂, hid, rfl⟩
    have h₄ := build_seq_eq_ok_iff.mpr ⟨_, e.result, h₃, hresult, rfl⟩
    exact build_seq_eq_ok_iff.mpr ⟨_, e.error, h₄, herror, rfl⟩

theorem lawful_reader : reader.Lawful fun _ => True := by
  have hlasts : reader.Lasts fun _ _ => True :=
    Lasts.map (fun _ _ _ _ _ => trivial) (lasts_ofOption Json.lasting_toStr)
      |>.seq (lasts_ofOption Json.lasting_toValue)
      |>.seq (lasts_ofOption Json.lasting_toValue)
      |>.seq (lasts_ofOption Json.lasting_toValue)
      |>.seq (lasts_ofOption RemoteError.lasting)
  exact hlasts.imp fun _ _ => trivial

theorem keysDiffer_iff {ms : List (String × Json)} :
    KeysDiffer reader.fields ms ↔ ((ms.map Prod.fst).filter fun key => key ∈ keys).Nodup := by
  have hnone : ∀ key, reader.fields.find? (fun f => f.name == key) = none ↔ key ∉ keys := by
    intro key
    rw [List.find?_eq_none, ← show reader.names = keys from rfl, RecordReader.names]
    simp
  rw [KeysDiffer, List.Nodup, List.pairwise_filter]
  refine List.Pairwise.iff fun k l => ?_
  rw [hnone]
  constructor
  · rintro hdiffer hk - rfl
    exact hdiffer rfl (of_decide_eq_true hk)
  · rintro hdiffer rfl hk
    exact hdiffer (decide_eq_true hk) (decide_eq_true hk) rfl

/-- **What is read of an object**: nothing but the values of the five keys, none of which
repeats. -/
theorem read_eq_ok_iff {ms : List (String × Json)} {e : Envelope} :
    reader.read "Envelope" (.object ms) = .ok e ↔
      ((ms.map Prod.fst).filter fun key => key ∈ keys).Nodup ∧
      Json.toOption Json.toStr (given ms "method") = .ok e.method ∧
      Json.toOption Json.toValue (given ms "params") = .ok e.params ∧
      Json.toOption Json.toValue (given ms "id") = .ok e.id ∧
      Json.toOption Json.toValue (given ms "result") = .ok e.result ∧
      Json.toOption RemoteError.ofJson (given ms "error") = .ok e.error := by
  rw [lawful_reader.read_object_eq_ok_iff, keysDiffer_iff, build_eq_ok_iff]

theorem exists_toOption_iff {α : Type} {read : Json → Decoded α} {j : Json} :
    (∃ o, Json.toOption read j = .ok o) ↔ j = .null ∨ ∃ a, read j = .ok a := by
  simp only [Json.toOption_eq_ok_iff]
  by_cases hnull : j = .null
  · simp [hnull]
  · simp [hnull]

theorem exists_toValue_iff {j : Json} :
    (∃ o, Json.toOption Json.toValue j = .ok o) ↔ j.Readable := by
  rw [exists_toOption_iff]
  constructor
  · rintro (rfl | ⟨e, he⟩)
    · exact Json.readable_null
    · exact ⟨e, Json.toValue_eq_ok_iff.mp he⟩
  · rintro ⟨e, he⟩
    exact .inr ⟨e, Json.toValue_eq_ok_iff.mpr he⟩

/-- Proper objects are those that can be read. -/
theorem proper_iff {ms : List (String × Json)} :
    Proper ms ↔ ∃ e, reader.read "Envelope" (.object ms) = .ok e := by
  constructor
  · rintro ⟨honce, hmethod, herror, hreadable⟩
    have hvalue : ∀ key ∈ ["params", "id", "result"],
        ∃ o, Json.toOption Json.toValue (given ms key) = .ok o :=
      fun key hkey => exists_toValue_iff.mpr (hreadable key hkey)
    obtain ⟨method, hmethod⟩ := exists_toOption_iff.mpr
      (hmethod.imp_right fun ⟨s, hs⟩ => ⟨s, Json.toStr_eq_ok_iff.mpr hs⟩)
    obtain ⟨params, hparams⟩ := hvalue "params" (by decide)
    obtain ⟨id, hid⟩ := hvalue "id" (by decide)
    obtain ⟨result, hresult⟩ := hvalue "result" (by decide)
    obtain ⟨error, herror⟩ := exists_toOption_iff.mpr herror
    exact ⟨⟨method, params, id, result, error⟩,
      read_eq_ok_iff.mpr ⟨honce, hmethod, hparams, hid, hresult, herror⟩⟩
  · rintro ⟨e, he⟩
    obtain ⟨honce, hmethod, hparams, hid, hresult, herror⟩ := read_eq_ok_iff.mp he
    refine ⟨honce, ?_, exists_toOption_iff.mp ⟨_, herror⟩, ?_⟩
    · exact (exists_toOption_iff.mp ⟨_, hmethod⟩).imp_right
        fun ⟨s, hs⟩ => ⟨s, Json.toStr_eq_ok_iff.mp hs⟩
    · simp only [List.forall_mem_cons, List.not_mem_nil, false_implies, implies_true, and_true]
      exact ⟨exists_toValue_iff.mp ⟨_, hparams⟩, exists_toValue_iff.mp ⟨_, hid⟩,
        exists_toValue_iff.mp ⟨_, hresult⟩⟩

/-! ## Telling messages apart -/

theorem taken_getD {j : Json} {o : Option Json} (h : Json.toOption Json.toValue j = .ok o) :
    Taken j (o.getD .null) := by
  rcases Json.toOption_eq_ok_iff.mp h with ⟨rfl, rfl⟩ | ⟨-, v, hv, rfl⟩
  · exact ⟨rfl, .refl _⟩
  · have hcollect := Json.toValue_eq_ok_iff.mp hv
    exact ⟨hcollect, Json.same_of_collect? hcollect⟩

theorem Taken.unique {j v w : Json} (hv : Taken j v) (hw : Taken j w) : v = w :=
  Option.some.inj (hv.collected.symm.trans hw.collected)

theorem idOf?_eq_some_iff {j : Json} {n : Nat} : idOf? j = some n ↔ j = .ofNat n := by
  unfold idOf?
  split
  · next m =>
    split
    · next hm =>
      rw [Option.some.injEq, Json.ofNat, Json.number.injEq, Number.integer.injEq]
      omega
    · next hm =>
      simp only [reduceCtorEq, Json.ofNat, Json.number.injEq, Number.integer.injEq, false_iff]
      omega
  · next hother =>
    simp only [reduceCtorEq, false_iff]
    rintro rfl
    exact hother n rfl

/-- The id of an envelope is a number just if the value of its key is. -/
theorem bind_idOf?_eq_some_iff {j : Json} {o : Option Json}
    (h : Json.toOption Json.toValue j = .ok o) {n : Nat} :
    o.bind idOf? = some n ↔ j = .ofNat n := by
  rcases Json.toOption_eq_ok_iff.mp h with ⟨rfl, rfl⟩ | ⟨-, v, hv, rfl⟩
  · simp [Json.ofNat]
  · rw [Option.bind_some, idOf?_eq_some_iff, Json.ofNat, ← Json.collect?_eq_number_iff (j := j),
      Json.toValue_eq_ok_iff.mp hv, Option.some.injEq]

theorem toOption_eq_ok_none_iff {α : Type} {read : Json → Decoded α} {j : Json}
    {o : Option α} (h : Json.toOption read j = .ok o) : o = none ↔ j = .null := by
  rcases Json.toOption_eq_ok_iff.mp h with ⟨rfl, rfl⟩ | ⟨hnull, a, -, rfl⟩
  · simp
  · simp [hnull]

/-- The outcome in the envelope of a reply. -/
def outcome (e : Envelope) : ReplyOutcome :=
  match e.error with
  | some err => .error err
  | none => .ok (e.result.getD .null)

theorem ofEnvelope_of_notifies {e : Envelope} {method : String} (hmethod : e.method = some method)
    (hid : e.id = none) : Incoming.ofEnvelope e = .notification method (e.params.getD .null) := by
  rw [Incoming.ofEnvelope, hmethod, hid]

theorem ofEnvelope_of_other {e : Envelope} (h : e.method = none ∨ e.id ≠ none) :
    Incoming.ofEnvelope e = .reply (e.id.bind idOf?) e.outcome := by
  obtain ⟨_ | method, params, _ | id, result, error⟩ := e
  · rfl
  · rfl
  · simp at h
  · rfl

theorem carries_outcome {ms : List (String × Json)} {e : Envelope}
    (hresult : Json.toOption Json.toValue (given ms "result") = .ok e.result)
    (herror : Json.toOption RemoteError.ofJson (given ms "error") = .ok e.error) :
    Carries ms e.outcome := by
  rw [outcome]
  rcases Json.toOption_eq_ok_iff.mp herror with ⟨hnull, hnone⟩ | ⟨hnull, err, hread, hsome⟩
  · rw [hnone]
    exact .result hnull (taken_getD hresult)
  · rw [hsome]
    exact .error hnull hread

/-- The message in an envelope is what the object tells, if its id is a word. -/
theorem tells_of_read {ms : List (String × Json)} {e : Envelope}
    (h : reader.read "Envelope" (.object ms) = .ok e)
    (hword : ∀ n, given ms "id" = .ofNat n → n ≤ Json.maxNat64) :
    Tells ms (Incoming.ofEnvelope e) := by
  obtain ⟨-, hmethod, hparams, hid, hresult, herror⟩ := read_eq_ok_iff.mp h
  have hnumbered : ∀ n, e.id.bind idOf? = some n ↔ given ms "id" = .ofNat n ∧ n ≤ Json.maxNat64 :=
    fun n => (bind_idOf?_eq_some_iff hid).trans ⟨fun hn => ⟨hn, hword n hn⟩, And.left⟩
  have hcarried := carries_outcome hresult herror
  have hnone := toOption_eq_ok_none_iff hid
  rcases Json.toOption_eq_ok_iff.mp hmethod with ⟨hnull, hm⟩ | ⟨-, method, hread, hm⟩
  · have hother : ¬ Notifies ms := by
      rintro ⟨⟨method, hnamed⟩, -⟩
      rw [hnull] at hnamed
      cases hnamed
    rw [ofEnvelope_of_other (.inl hm)]
    exact .reply hother hnumbered hcarried
  · have hnamed := Json.toStr_eq_ok_iff.mp hread
    by_cases hmissing : e.id = none
    · rw [ofEnvelope_of_notifies hm hmissing]
      exact .notification ⟨⟨method, hnamed⟩, hnone.mp hmissing⟩ hnamed (taken_getD hparams)
    · have hother : ¬ Notifies ms := fun hnotifies => hmissing (hnone.mpr hnotifies.2)
      rw [ofEnvelope_of_other (.inr hmissing)]
      exact .reply hother hnumbered hcarried

theorem Carries.unique {ms : List (String × Json)} {o o' : ReplyOutcome} (h : Carries ms o)
    (h' : Carries ms o') : o = o' := by
  cases h with
  | error hfailed hread =>
    cases h' with
    | error _ hread' => rw [Except.ok.inj (hread.symm.trans hread')]
    | result hfine _ => exact absurd hfine hfailed
  | result hfine htaken =>
    cases h' with
    | error hfailed _ => exact absurd hfine hfailed
    | result _ htaken' => rw [htaken.unique htaken']

/-- An object tells one message. -/
theorem Tells.unique {ms : List (String × Json)} {m m' : Incoming} (h : Tells ms m)
    (h' : Tells ms m') : m = m' := by
  cases h with
  | notification hnotifies hnamed htaken =>
    cases h' with
    | notification _ hnamed' htaken' =>
      rw [htaken.unique htaken', Json.string.inj (hnamed.symm.trans hnamed')]
    | reply hother => exact absurd hnotifies hother
  | reply hother hnumbered hcarried =>
    cases h' with
    | notification hnotifies => exact absurd hnotifies hother
    | reply _ hnumbered' hcarried' =>
      rw [hcarried.unique hcarried',
        Option.ext fun n => (hnumbered n).trans (hnumbered' n).symm]

/-! ## Other members -/

/-- Two objects have the same members under the five keys, in any order. -/
def Agree (ms ms' : List (String × Json)) : Prop :=
  (ms.filter fun m => m.1 ∈ keys).Perm (ms'.filter fun m => m.1 ∈ keys)

theorem filter_keys (ms : List (String × Json)) :
    ((ms.map Prod.fst).filter fun key => key ∈ keys)
      = (ms.filter fun m => m.1 ∈ keys).map Prod.fst :=
  List.filter_map

theorem given_filter (ms : List (String × Json)) {key : String} (hkey : key ∈ keys) :
    given (ms.filter fun m => m.1 ∈ keys) key = given ms key := by
  rw [given, Json.lookup_filter (fun key => key ∈ keys), if_pos (decide_eq_true hkey), given]

theorem Agree.given_eq {ms ms' : List (String × Json)} (h : Agree ms ms')
    (honce : ((ms.map Prod.fst).filter fun key => key ∈ keys).Nodup) {key : String}
    (hkey : key ∈ keys) : given ms' key = given ms key := by
  rw [← given_filter ms hkey, ← given_filter ms' hkey, given, given,
    Json.lookup_perm h (filter_keys ms ▸ honce)]

theorem read_of_agree {ms ms' : List (String × Json)} (h : Agree ms ms') {e : Envelope}
    (he : reader.read "Envelope" (.object ms) = .ok e) :
    reader.read "Envelope" (.object ms') = .ok e := by
  rw [read_eq_ok_iff] at he ⊢
  obtain ⟨honce, hvalues⟩ := he
  have hgiven : ∀ key ∈ keys, given ms' key = given ms key := fun key => h.given_eq honce
  have honce' : ((ms'.map Prod.fst).filter fun key => key ∈ keys).Nodup := by
    rw [filter_keys] at honce ⊢
    exact (h.map Prod.fst).nodup_iff.mp honce
  rw [hgiven "method" (by decide), hgiven "params" (by decide), hgiven "id" (by decide),
    hgiven "result" (by decide), hgiven "error" (by decide)]
  exact ⟨honce', hvalues⟩

end Envelope

/-! ## Messages in bytes -/

namespace Incoming

open Envelope

theorem ofJson_eq_ok_iff {j : Json} {m : Incoming} :
    ofJson j = .ok m ↔ ∃ e, Envelope.reader.read "Envelope" j = .ok e ∧ ofEnvelope e = m := by
  rw [ofJson]
  cases Envelope.reader.read "Envelope" j <;> simp [Except.map]

theorem ofBytes_eq_ok_iff {bytes : List UInt8} {j : Json} (h : Json.parse? bytes = some j)
    {m : Incoming} : ofBytes bytes = .ok m ↔ ofJson j = .ok m := by
  have hdecoded : Json.decodeBytes ofJson bytes = ofJson j := by rw [Json.decodeBytes, h]
  rw [ofBytes, hdecoded]
  cases ofJson j <;> simp

/-- Bytes that are no message are refused for their data. -/
theorem exists_fault_of_ne_ok {bytes : List UInt8} (h : ∀ m, ofBytes bytes ≠ .ok m) :
    ∃ fault, ofBytes bytes = .error (.json "Failed to parse IPC frame: " (some fault)) := by
  unfold ofBytes at h ⊢
  cases hdecoded : Json.decodeBytes ofJson bytes with
  | ok m =>
    rw [hdecoded] at h
    exact absurd rfl (h m)
  | error fault => exact ⟨fault, rfl⟩

theorem le_maxNat64_of_given {bytes : List UInt8} {ms : List (String × Json)}
    (h : Json.parse? bytes = some (.object ms)) {key : String} {n : Nat}
    (hn : given ms key = .ofNat n) : n ≤ Json.maxNat64 := by
  cases hkey : Json.lookup key ms with
  | none =>
    rw [given, hkey] at hn
    cases hn
  | some j =>
    obtain rfl : j = .ofNat n := by rwa [given, hkey] at hn
    cases Json.inWords_of_parse? h with
    | object hms =>
      cases hms _ (Json.mem_of_lookup hkey) with
      | number hword => exact Int.ofNat_le.mp hword.2

/-- **What an object is taken for.**  Bytes that spell a proper object are a message, the one that
the values of its five keys tell: a notification just if it names a method and has no id, and
otherwise a reply, to the call with its id if that is a natural number of 64 bits, with its error,
or its result if there is no error.  Bytes that spell any other object are no message.  Neither the
order of the members nor any member under another key matters.  A number stands for a natural number
just if it is written in digits alone and fits 64 bits. -/
theorem message_of_object {bytes : List UInt8} {ms : List (String × Json)}
    (h : Json.parse? bytes = some (.object ms)) :
    (Proper ms → ∃ m, ofBytes bytes = .ok m ∧ Tells ms m) ∧
    (∀ m, ofBytes bytes = .ok m ↔ Proper ms ∧ Tells ms m) ∧
    (¬ Proper ms →
      ∃ fault, ofBytes bytes = .error (.json "Failed to parse IPC frame: " (some fault))) ∧
    (∀ bytes' ms', Json.parse? bytes' = some (.object ms') → Agree ms ms' →
      ∀ m, ofBytes bytes' = .ok m ↔ ofBytes bytes = .ok m) ∧
    ∀ (token : List Char) (n : Nat), Json.scalar? token = some (.number (some (.integer n))) ↔
      token = Nat.toDigits 10 n ∧ n ≤ Json.maxNat64 := by
  have htells : ∀ m, ofBytes bytes = .ok m → Proper ms ∧ Tells ms m := by
    intro m hm
    obtain ⟨e, he, rfl⟩ := ofJson_eq_ok_iff.mp ((ofBytes_eq_ok_iff h).mp hm)
    exact ⟨proper_iff.mpr ⟨e, he⟩, tells_of_read he fun n => le_maxNat64_of_given h⟩
  have hexists : Proper ms → ∃ m, ofBytes bytes = .ok m ∧ Tells ms m := by
    intro hproper
    obtain ⟨e, he⟩ := proper_iff.mp hproper
    have hm := (ofBytes_eq_ok_iff h).mpr (ofJson_eq_ok_iff.mpr ⟨e, he, rfl⟩)
    exact ⟨_, hm, (htells _ hm).2⟩
  refine ⟨hexists, fun m => ⟨htells m, ?_⟩, fun himproper => ?_, ?_,
    fun token n => Json.scalar?_eq_natural_iff⟩
  · rintro ⟨hproper, hm⟩
    obtain ⟨m', hm', htold⟩ := hexists hproper
    rw [hm', hm.unique htold]
  · exact exists_fault_of_ne_ok fun m hm => himproper (htells m hm).1
  · intro bytes' ms' h' hagree m
    rw [ofBytes_eq_ok_iff h, ofBytes_eq_ok_iff h', ofJson_eq_ok_iff, ofJson_eq_ok_iff]
    constructor
    · rintro ⟨e, he, rfl⟩
      exact ⟨e, read_of_agree hagree.symm he, rfl⟩
    · rintro ⟨e, he, rfl⟩
      exact ⟨e, read_of_agree hagree he, rfl⟩

/-- A notification whose id is `null`, with a number that is too large under a further key; one with
the same members in another order; and an object that repeats an id. -/
theorem message_of_object_shuffled :
    let notice := Json.bytesOf
      "\x7b\"x\":1e999,\"params\":true,\"id\":null,\"method\":\"m\"\x7d"
    let ordered := Json.bytesOf "\x7b\"method\":\"m\",\"id\":null,\"params\":true\x7d"
    let repeated := Json.bytesOf "\x7b\"id\":7,\"id\":7\x7d"
    ofBytes notice = .ok (.notification "m" (.bool true)) ∧
    ofBytes ordered = .ok (.notification "m" (.bool true)) ∧
    ∃ fault, ofBytes repeated = .error (.json "Failed to parse IPC frame: " (some fault)) := by
  intro notice ordered repeated
  have hnotice : Json.parse? notice = some (.object [("x", .unreadable), ("params", .bool true),
      ("id", .null), ("method", .string "m")]) := by
    have htokens : Json.Token.scan? notice = some [.openObject,
        .string "x", .colon, .number none, .comma, .string "params", .colon, .bool true, .comma,
        .string "id", .colon, .null, .comma, .string "method", .colon, .string "m",
        .closeObject] := by decide +kernel
    rw [Json.parse?, htokens]
    rfl
  have hordered : Json.parse? ordered = some (.object [("method", .string "m"), ("id", .null),
      ("params", .bool true)]) := by
    have htokens : Json.Token.scan? ordered = some [.openObject,
        .string "method", .colon, .string "m", .comma, .string "id", .colon, .null, .comma,
        .string "params", .colon, .bool true, .closeObject] := by decide +kernel
    rw [Json.parse?, htokens]
    rfl
  have hrepeated : Json.parse? repeated = some (.object [("id", .ofNat 7), ("id", .ofNat 7)]) := by
    have htokens : Json.Token.scan? repeated = some [.openObject,
        .string "id", .colon, .number (some (.integer 7)), .comma,
        .string "id", .colon, .number (some (.integer 7)), .closeObject] := by decide +kernel
    rw [Json.parse?, htokens]
    rfl
  obtain ⟨-, htells, -, hagree, -⟩ := message_of_object hnotice
  obtain ⟨-, -, himproper, -⟩ := message_of_object hrepeated
  have hproper : Proper [("x", .unreadable), ("params", .bool true), ("id", .null),
      ("method", .string "m")] := by
    refine ⟨by decide, .inr ⟨"m", rfl⟩, .inl rfl, ?_⟩
    simp only [List.forall_mem_cons, List.not_mem_nil, false_implies, implies_true, and_true]
    exact ⟨⟨_, rfl⟩, ⟨_, rfl⟩, ⟨_, rfl⟩⟩
  have hmessage : ofBytes notice = .ok (.notification "m" (.bool true)) :=
    (htells _).mpr ⟨hproper, .notification ⟨⟨"m", rfl⟩, rfl⟩ rfl ⟨rfl, .refl _⟩⟩
  refine ⟨hmessage, (hagree ordered _ hordered ?_ _).mpr hmessage, himproper fun h => ?_⟩
  · exact
      (List.reverse_perm [("params", Json.bool true), ("id", .null), ("method", .string "m")]).symm
  · exact absurd h.once (by decide)

end Incoming

end AssetSearch.Wire
