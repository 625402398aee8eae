/-
# Records that last

The reader of a record takes the members of an object whatever their order, and what it makes of
them depends on the values of its fields alone.  So a record whose fields last is written as an
object that reads as the same record.

Key definitions: `RecordReader.Lawful` (the laws of a reader, and what holds of its records),
`RecordReader.Written` (members from which a record is read again), `RecordReader.Lasts` (what the
members are from which each record is read again).  Key statements:
`RecordReader.checkMembers_eq_ok_iff`, `RecordReader.Lawful.read_settled`, `RecordReader.Lasts.seq`,
`RecordReader.Lasts.lasting`.
-/
import AssetSearch.Proofs.Json.Lasting

namespace AssetSearch

open Json (Collects Lasting Restored lookup sortMembers)

/-! ## Values of keys in free-form data -/

namespace Json

theorem map_fst_of_collects {ms ns : List (String × Json)} (h : ms.Forall₂ Collects ns) :
    ns.map Prod.fst = ms.map Prod.fst := by
  induction h with
  | nil => rfl
  | cons hmn _ ih => simp only [List.map_cons, ih, hmn.1]

/-- Keys with related values, in the same order. -/
theorem lookup_of_forall₂ {R : Json → Json → Prop} {ms ns : List (String × Json)}
    (h : ms.Forall₂ (fun m n => m.1 = n.1 ∧ R m.2 n.2) ns) (key : String) :
    Option.Rel R (lookup key ms) (lookup key ns) := by
  induction h with
  | nil => exact .none
  | @cons m n _ _ hmn _ ih =>
    by_cases hkey : m.1 = key
    · simpa [lookup, hkey, hmn.1 ▸ hkey] using hmn.2
    · simpa [lookup, hkey, hmn.1 ▸ hkey] using ih

theorem lookup_of_collects {ms ns : List (String × Json)} (h : ms.Forall₂ Collects ns)
    (key : String) :
    Option.Rel (fun j e => j.collect? = some e) (lookup key ms) (lookup key ns) :=
  lookup_of_forall₂ (R := fun j e => j.collect? = some e) h key

theorem lookup_zip_of_collects {items es : List Json}
    (h : items.Forall₂ (fun j e => j.collect? = some e) es) (names : List String) (key : String) :
    Option.Rel (fun j e => j.collect? = some e) (lookup key (names.zip items))
      (lookup key (names.zip es)) := by
  refine lookup_of_collects ?_ key
  induction h generalizing names with
  | nil => simp
  | cons hje _ ih =>
    cases names with
    | nil => exact .nil
    | cons name names => exact .cons ⟨rfl, hje⟩ (ih names)

end Json

namespace RecordReader

variable {α β : Type} {r : RecordReader α}

/-! ## Checking members -/

/-- The names of the fields. -/
def names (r : RecordReader α) : List String :=
  r.fields.map FieldRule.name

/-- No two members have the key of the same field. -/
def KeysDiffer (fields : List FieldRule) (ms : List (String × Json)) : Prop :=
  (ms.map Prod.fst).Pairwise fun k l => k = l → fields.find? (fun f => f.name == k) = none

theorem KeysDiffer.lookup_reverse {fields : List FieldRule} {ms : List (String × Json)}
    (h : KeysDiffer fields ms) {f : FieldRule} (hf : f ∈ fields) :
    lookup f.name ms.reverse = lookup f.name ms := by
  refine Json.lookup_reverse ((List.pairwise_map.mp h).imp fun himp hm hn => ?_)
  have hnone := List.find?_eq_none.mp (himp (hm.trans hn.symm)) f hf
  exact hnone (beq_iff_eq.mpr hm.symm)

theorem KeysDiffer.lookup_of_mem {fields : List FieldRule} {ms : List (String × Json)}
    (h : KeysDiffer fields ms) {m : String × Json} (hm : m ∈ ms) {f : FieldRule}
    (hf : fields.find? (fun f => f.name == m.1) = some f) : lookup m.1 ms = some m.2 := by
  induction ms with
  | nil => cases hm
  | cons n ms ih =>
    rw [KeysDiffer, List.map_cons, List.pairwise_cons] at h
    rcases List.mem_cons.mp hm with rfl | hm
    · simp [lookup]
    · have hne : n.1 ≠ m.1 := by
        intro heq
        have hnone := h.1 m.1 (List.mem_map_of_mem hm) heq
        rw [heq, hf] at hnone
        cases hnone
      rw [lookup, if_neg hne, ih h.2 hm]

theorem keysDiffer_of_nodup (fields : List FieldRule) {ms : List (String × Json)}
    (h : (ms.map Prod.fst).Nodup) : KeysDiffer fields ms :=
  h.imp fun hne heq => absurd heq hne

/-- An object passes when no field stands in it twice and every field passes its own check. -/
theorem checkMembers_eq_ok_iff {fields : List FieldRule} {seen : List String}
    {ms : List (String × Json)} :
    checkMembers fields seen ms = .ok () ↔ KeysDiffer fields ms ∧
      ∀ m ∈ ms, ∀ f, fields.find? (fun f => f.name == m.1) = some f →
        m.1 ∉ seen ∧ f.check m.2 = .ok () := by
  induction ms generalizing seen with
  | nil => simp [checkMembers, KeysDiffer]
  | cons m ms ih =>
    obtain ⟨key, value⟩ := m
    rw [KeysDiffer, List.map_cons, List.pairwise_cons, List.forall_mem_cons]
    dsimp only
    cases hfind : fields.find? fun f => f.name == key with
    | none =>
      simp only [checkMembers, hfind, ih, KeysDiffer, reduceCtorEq, false_implies, implies_true,
        true_and]
    | some f =>
      have hstep : checkMembers fields seen ((key, value) :: ms) = .ok () ↔
          (key ∉ seen ∧ f.check value = .ok ()) ∧
            checkMembers fields (key :: seen) ms = .ok () := by
        simp only [checkMembers, hfind]
        by_cases hseen : key ∈ seen
        · simp [hseen]
        · cases hcheck : f.check value <;> simp [hseen]
      rw [hstep, ih]
      constructor
      · rintro ⟨hkey, hdiffer, hall⟩
        refine ⟨⟨fun l hl heq => ?_, hdiffer⟩, fun g hg => ?_, fun m hm g hg => ?_⟩
        · obtain ⟨n, hn, rfl⟩ := List.mem_map.mp hl
          exact absurd (heq ▸ List.mem_cons_self) (hall n hn f (heq ▸ hfind)).1
        · obtain rfl := Option.some.inj hg
          exact hkey
        · obtain ⟨hnot, hcheck⟩ := hall m hm g hg
          exact ⟨fun hseen => hnot (List.mem_cons_of_mem key hseen), hcheck⟩
      · rintro ⟨⟨hhead, hdiffer⟩, hkey, hall⟩
        refine ⟨hkey f rfl, hdiffer, fun m hm g hg => ⟨fun hmem => ?_, (hall m hm g hg).2⟩⟩
        rcases List.mem_cons.mp hmem with heq | hseen
        · cases hhead m.1 (List.mem_map_of_mem hm) heq.symm
        · exact (hall m hm g hg).1 hseen

/-! ## Laws of a reader -/

/-- The laws of a reader of records, every record of which satisfies `P`. -/
structure Lawful (r : RecordReader α) (P : α → Prop) : Prop where
  /-- The free-form data of a value passes the check that the value passes. -/
  check_settled : ∀ {f j e}, f ∈ r.fields → j.collect? = some e → f.check j = .ok () →
    f.check e = .ok ()
  /-- Members with the free-form data of the fields make the same record. -/
  build_settled : ∀ {ms ns a}, (∀ f ∈ r.fields, Option.Rel (fun j e => j.collect? = some e)
    (lookup f.name ms) (lookup f.name ns)) → r.build ms = .ok a → r.build ns = .ok a
  /-- The fields of a record have passed their checks. -/
  check : ∀ {ms a f j}, r.build ms = .ok a → f ∈ r.fields → lookup f.name ms = some j →
    f.check j = .ok ()
  holds : ∀ {ms a}, r.build ms = .ok a → P a

theorem build_seq_eq_ok_iff {r : RecordReader (α → β)} {s : RecordReader α}
    {ms : List (String × Json)} {b : β} :
    (r <*> s).build ms = .ok b ↔ ∃ f a, r.build ms = .ok f ∧ s.build ms = .ok a ∧ f a = b := by
  show (andThen r s).build ms = .ok b ↔ _
  simp only [andThen]
  cases r.build ms with
  | error e => simp
  | ok f => cases s.build ms <;> simp [Except.map]

theorem lawful_const {P : α → Prop} {a : α} (h : P a) : (const a).Lawful P where
  check_settled hf := by cases hf
  build_settled _ ha := ha
  check _ hf := by cases hf
  holds ha := Except.ok.inj ha ▸ h

theorem Lawful.seq {P : β → Prop} {Q : α → Prop} {r : RecordReader (α → β)} {s : RecordReader α}
    (hr : r.Lawful fun f => ∀ a, Q a → P (f a)) (hs : s.Lawful Q) : (r <*> s).Lawful P where
  check_settled hf he hj := by
    rcases List.mem_append.mp hf with hf | hf
    · exact hr.check_settled hf he hj
    · exact hs.check_settled hf he hj
  build_settled hrel hb := by
    obtain ⟨f, a, hf, ha, rfl⟩ := build_seq_eq_ok_iff.mp hb
    have hf' := hr.build_settled (fun g hg => hrel g (List.mem_append_left _ hg)) hf
    have ha' := hs.build_settled (fun g hg => hrel g (List.mem_append_right _ hg)) ha
    exact build_seq_eq_ok_iff.mpr ⟨f, a, hf', ha', rfl⟩
  check hb hf hj := by
    obtain ⟨f, a, hf', ha, rfl⟩ := build_seq_eq_ok_iff.mp hb
    rcases List.mem_append.mp hf with hf | hf
    · exact hr.check hf' hf hj
    · exact hs.check ha hf hj
  holds hb := by
    obtain ⟨f, a, hf, ha, rfl⟩ := build_seq_eq_ok_iff.mp hb
    exact hr.holds hf a (hs.holds ha)

theorem Lawful.imp {P Q : α → Prop} (h : r.Lawful P) (himp : ∀ a, P a → Q a) : r.Lawful Q where
  check_settled := h.check_settled
  build_settled := h.build_settled
  check := h.check
  holds ha := himp _ (h.holds ha)

/-- A field of either kind: one that must be there, or one that has a value of its own. -/
def field (name : String) (isOptional : Bool) (absent : Decoded α) (read : Json → Decoded α) :
    RecordReader α where
  fields := [⟨name, isOptional, fun j => (read j).map fun _ => ()⟩]
  build members :=
    match lookup name members with
    | some j => read j
    | none => absent

section Fields

variable {read : Json → Decoded α} {write : α → Json} {name : String} {isOptional : Bool}
  {absent : Decoded α}

theorem check_map_eq_ok_iff {j : Json} :
    ((read j).map fun _ => ()) = .ok () ↔ ∃ a, read j = .ok a := by
  cases read j <;> simp [Except.map]

theorem lawful_field (h : Lasting read write)
    (habsent : ∀ a, absent = .ok a → Restored read write a) :
    (field name isOptional absent read).Lawful (Restored read write) where
  check_settled hf he hj := by
    obtain rfl := List.mem_singleton.mp hf
    obtain ⟨a, ha⟩ := check_map_eq_ok_iff.mp hj
    exact check_map_eq_ok_iff.mpr ⟨a, h.settled he ha⟩
  build_settled {ms ns a} hrel ha := by
    have hname : Option.Rel (fun j e => j.collect? = some e) (lookup name ms) (lookup name ns) :=
      hrel _ (List.mem_singleton_self _)
    simp only [field] at ha ⊢
    generalize lookup name ms = found at hname ha
    generalize lookup name ns = found' at hname
    cases hname with
    | none => exact ha
    | some he => exact h.settled he ha
  check ha hf hj := by
    obtain rfl := List.mem_singleton.mp hf
    simp only [field] at hj ha
    rw [hj] at ha
    exact check_map_eq_ok_iff.mpr ⟨_, ha⟩
  holds {ms a} ha := by
    simp only [field] at ha
    split at ha
    · exact h.restored ha
    · exact habsent a ha

end Fields

/-! ## Reading free-form data -/

section Settled

variable {P : α → Prop} {ms ns : List (String × Json)}

theorem Lawful.checkMembers_settled (h : r.Lawful P) (hns : ms.Forall₂ Collects ns)
    (hms : checkMembers r.fields [] ms = .ok ()) :
    checkMembers r.fields [] (sortMembers ns) = .ok () := by
  obtain ⟨-, hall⟩ := checkMembers_eq_ok_iff.mp hms
  refine checkMembers_eq_ok_iff.mpr ⟨?_, fun n hn f hf => ⟨List.not_mem_nil, ?_⟩⟩
  · exact keysDiffer_of_nodup _ (List.pairwise_map.mpr ((Json.sorted_sortMembers ns).imp ne_of_lt))
  · obtain ⟨m, hm, hkey, hvalue⟩ :=
      Json.exists_of_mem_forall₂ hns (Json.mem_of_mem_sortMembers hn)
    have hcheck := (hall m hm f (hkey ▸ hf)).2
    exact h.check_settled (List.mem_of_find?_eq_some hf) hvalue hcheck

theorem Lawful.build_sortMembers (h : r.Lawful P) (hns : ms.Forall₂ Collects ns)
    (hms : checkMembers r.fields [] ms = .ok ()) {a : α} (ha : r.build ms = .ok a) :
    r.build (sortMembers ns) = .ok a := by
  have hdiffer : KeysDiffer r.fields ns := by
    rw [KeysDiffer, Json.map_fst_of_collects hns]
    exact (checkMembers_eq_ok_iff.mp hms).1
  refine h.build_settled (fun f hf => ?_) ha
  rw [Json.lookup_sortMembers, hdiffer.lookup_reverse hf]
  exact Json.lookup_of_collects hns f.name

theorem checkItems_settled {expected : String} {fields : List FieldRule}
    (h : ∀ f ∈ fields, ∀ {j e}, j.collect? = some e → f.check j = .ok () → f.check e = .ok ())
    {items es : List Json} (hes : items.Forall₂ (fun j e => j.collect? = some e) es)
    {position : Nat} (hitems : checkItems expected position fields items = .ok ()) :
    checkItems expected position fields es = .ok () := by
  induction fields generalizing items es position with
  | nil =>
    cases hes with
    | nil => exact hitems
    | cons => cases hitems
  | cons f fields ih =>
    obtain ⟨hf, hfields⟩ := List.forall_mem_cons.mp h
    cases hes with
    | nil => exact hitems
    | @cons j e _ _ he hes =>
      simp only [checkItems] at hitems ⊢
      cases hcheck : f.check j with
      | error fault => simp [hcheck] at hitems
      | ok _ =>
        rw [hcheck] at hitems
        rw [hf he hcheck]
        exact ih hfields hes hitems

/-- A record is read alike from a value and from its free-form data. -/
theorem Lawful.read_settled (h : r.Lawful P) {name : String} {j e : Json} {a : α}
    (he : j.collect? = some e) (hj : r.read name j = .ok a) : r.read name e = .ok a := by
  cases j with
  | object ms =>
    obtain ⟨ns, hns, rfl⟩ := Option.map_eq_some_iff.mp he
    have hns := Json.collectMembers?_eq_some_iff.mp hns
    simp only [read] at hj
    cases hcheck : checkMembers r.fields [] ms with
    | error fault => simp [hcheck] at hj
    | ok _ =>
      rw [hcheck] at hj
      simp only [Json.record, read, h.checkMembers_settled hns hcheck]
      exact h.build_sortMembers hns hcheck hj
  | array items =>
    obtain ⟨es, hes, rfl⟩ := Option.map_eq_some_iff.mp he
    have hes := Json.collectItems?_eq_some_iff.mp hes
    simp only [read] at hj ⊢
    cases hcheck : checkItems (r.describe name) 0 r.fields items with
    | error fault => simp [hcheck] at hj
    | ok _ =>
      rw [hcheck] at hj
      rw [checkItems_settled (fun f hf => h.check_settled hf) hes hcheck]
      exact h.build_settled (fun f _ => Json.lookup_zip_of_collects hes _ f.name) hj
  | _ => cases hj

end Settled

/-! ## Writing records -/

/-- Members in the order of the fields, from which the record `a` is made; other members may stand
around them. -/
structure Written (r : RecordReader α) (ms : List (String × Json)) (a : α) : Prop where
  keys : (ms.map Prod.fst).Sublist r.names
  readable : ∀ m ∈ ms, m.2.Readable
  build : r.names.Nodup → ∀ ns, (∀ f ∈ r.fields, lookup f.name ns = lookup f.name ms) →
    r.build ns = .ok a

theorem names_seq (r : RecordReader (α → β)) (s : RecordReader α) :
    (r <*> s).names = r.names ++ s.names :=
  List.map_append

theorem Written.lookup_eq_none {ms : List (String × Json)} {a : α} (h : r.Written ms a)
    {key : String} (hkey : key ∉ r.names) : lookup key ms = none :=
  Json.lookup_eq_none_iff.mpr fun _ hm heq =>
    hkey (heq ▸ h.keys.subset (List.mem_map_of_mem hm))

theorem written_const (a : α) : (const a).Written [] a where
  keys := List.Sublist.refl []
  readable _ hm := by cases hm
  build _ _ _ := rfl

theorem Written.seq {r : RecordReader (α → β)} {s : RecordReader α}
    {ms ns : List (String × Json)} {f : α → β} {a : α}
    (hr : r.Written ms f) (hs : s.Written ns a) : (r <*> s).Written (ms ++ ns) (f a) where
  keys := by
    rw [List.map_append, names_seq]
    exact hr.keys.append hs.keys
  readable := List.forall_mem_append.mpr ⟨hr.readable, hs.readable⟩
  build hnodup ps hps := by
    rw [names_seq] at hnodup
    obtain ⟨hrnodup, hsnodup, hdisjoint⟩ := List.nodup_append.mp hnodup
    have hleft : r.build ps = .ok f := hr.build hrnodup ps fun g hg => by
      have hname : g.name ∉ s.names := fun h => hdisjoint _ (List.mem_map_of_mem hg) _ h rfl
      rw [hps g (List.mem_append_left _ hg), Json.lookup_append, hs.lookup_eq_none hname,
        Option.or_none]
    have hright : s.build ps = .ok a := hs.build hsnodup ps fun g hg => by
      have hname : g.name ∉ r.names := fun h => hdisjoint _ h _ (List.mem_map_of_mem hg) rfl
      rw [hps g (List.mem_append_right _ hg), Json.lookup_append, hr.lookup_eq_none hname,
        Option.none_or]
    exact build_seq_eq_ok_iff.mpr ⟨f, a, hleft, hright, rfl⟩

section Fields

variable {read : Json → Decoded α} {write : α → Json} {name : String} {isOptional : Bool}

/-- A field that is written whatever its value. -/
theorem written_field {absent : Decoded α} {a : α} (h : Restored read write a) :
    (field name isOptional absent read).Written (Json.member name (write a)) a where
  keys := List.Sublist.refl [name]
  readable _ hm := List.mem_singleton.mp hm ▸ h.readable
  build _ ns hns := by
    have hname : lookup name ns = some (write a) := by
      rw [hns _ (List.mem_singleton_self _)]
      simp [Json.member, lookup]
    simp only [field, hname, h.again]

/-- A field that is left out when it has no value. -/
theorem written_ofOption {o : Option α}
    (h : Restored (Json.toOption read) (Json.ofOption write) o) :
    (field name isOptional (.ok none) (Json.toOption read)).Written
      (Json.memberIfSome name write o) o := by
  cases o with
  | some a => exact written_field h
  | none =>
    refine ⟨List.nil_sublist _, (fun _ hm => by cases hm), fun _ ns hns => ?_⟩
    have hname : lookup name ns = none := hns _ (List.mem_singleton_self _)
    simp only [field, hname]

end Fields

/-! ## Records that last -/

section Lasts

variable {P : α → Prop} {name : String} {write : α → Json}

theorem exists_build_of_read {j : Json} {a : α} (h : r.read name j = .ok a) :
    ∃ ms, r.build ms = .ok a := by
  unfold read at h
  split at h
  · split at h
    · cases h
    · exact ⟨_, h⟩
  · split at h
    · cases h
    · exact ⟨_, h⟩
  · cases h

/-- Members that make a record pass its checks. -/
theorem Lawful.checkMembers_of_build (h : r.Lawful P) {ms : List (String × Json)} {a : α}
    (hdiffer : KeysDiffer r.fields ms) (ha : r.build ms = .ok a) :
    checkMembers r.fields [] ms = .ok () := by
  refine checkMembers_eq_ok_iff.mpr ⟨hdiffer, fun m hm f hf => ⟨List.not_mem_nil, ?_⟩⟩
  have hname : f.name = m.1 := by simpa using List.find?_some hf
  exact h.check ha (List.mem_of_find?_eq_some hf) (hname ▸ hdiffer.lookup_of_mem hm hf)

/-- An object is read if no field stands in it twice and its members make a record. -/
theorem Lawful.read_object_eq_ok_iff (h : r.Lawful P) {ms : List (String × Json)} {a : α} :
    r.read name (.object ms) = .ok a ↔ KeysDiffer r.fields ms ∧ r.build ms = .ok a := by
  simp only [read]
  constructor
  · intro hread
    cases hcheck : checkMembers r.fields [] ms with
    | error e => simp [hcheck] at hread
    | ok _ => exact ⟨(checkMembers_eq_ok_iff.mp hcheck).1, by simpa [hcheck] using hread⟩
  · rintro ⟨hdiffer, ha⟩
    rw [h.checkMembers_of_build hdiffer ha]
    exact ha

/-- Every record is read again from some members, and these are as `P` says. -/
def Lasts (r : RecordReader α) (P : List (String × Json) → α → Prop) : Prop :=
  r.Lawful fun a => ∃ ms, r.Written ms a ∧ P ms a

theorem lasts_const {P : List (String × Json) → α → Prop} {a : α} (h : P [] a) :
    (const a).Lasts P :=
  lawful_const ⟨[], written_const a, h⟩

/-- The members of one more field come behind the others. -/
theorem Lasts.seq {P : List (String × Json) → β → Prop} {members : α → List (String × Json)}
    {r : RecordReader (α → β)} {s : RecordReader α}
    (hr : r.Lasts fun ms f => ∀ a, P (ms ++ members a) (f a))
    (hs : s.Lasts fun ns a => ns = members a) : (r <*> s).Lasts P := by
  refine Lawful.seq (hr.imp ?_) hs
  rintro f ⟨ms, hms, hf⟩ a ⟨_, hns, rfl⟩
  exact ⟨ms ++ members a, hms.seq hns, hf a⟩

theorem Lasts.map {P : List (String × Json) → β → Prop} {members : α → List (String × Json)}
    {g : α → β} {s : RecordReader α} (hg : ∀ a, P (members a) (g a))
    (hs : s.Lasts fun ns a => ns = members a) : (g <$> s).Lasts P :=
  Lasts.seq (lasts_const hg) hs

section Fields

variable {read : Json → Decoded α}

theorem lasts_required {key : String} (h : Lasting read write) :
    (required key read).Lasts fun ms a => ms = Json.member key (write a) :=
  (lawful_field h fun _ ha => by cases ha).imp fun _ ha => ⟨_, written_field ha, rfl⟩

theorem lasts_optional {key : String} {absent : α} (h : Lasting read write)
    (habsent : Restored read write absent) :
    (optional key absent read).Lasts fun ms a => ms = Json.member key (write a) :=
  (lawful_field h fun _ ha => Except.ok.inj ha ▸ habsent).imp fun _ ha =>
    ⟨_, written_field ha, rfl⟩

theorem lasts_ofOption {key : String} (h : Lasting read write) :
    (optional key none (Json.toOption read)).Lasts
      fun ms o => ms = Json.memberIfSome key write o := by
  have hnone : Restored (Json.toOption read) (Json.ofOption write) none :=
    ⟨rfl, Json.readable_null⟩
  exact (lawful_field h.ofOption fun _ ha => Except.ok.inj ha ▸ hnone).imp
    fun _ ho => ⟨_, written_ofOption ho, rfl⟩

end Fields

/-- A record lasts when it is written as the members of its fields. -/
theorem Lasts.lasting (hnames : r.names.Nodup)
    (h : r.Lasts fun ms a => write a = .object ms) : Lasting (r.read name) write where
  settled := h.read_settled
  restored hj := by
    obtain ⟨ms, hms⟩ := exists_build_of_read hj
    obtain ⟨ns, hns, hwrite⟩ := h.holds hms
    have hbuild := hns.build hnames ns fun _ _ => rfl
    refine ⟨?_, hwrite ▸ Json.readable_object hns.readable⟩
    simp only [hwrite, read, h.checkMembers_of_build
      (keysDiffer_of_nodup _ (hnames.sublist hns.keys)) hbuild, hbuild]
  null hj hnull := by
    obtain ⟨ms, hms⟩ := exists_build_of_read hj
    obtain ⟨ns, -, hwrite⟩ := h.holds hms
    cases hwrite.symm.trans hnull

end Lasts

end RecordReader

end AssetSearch
