/-
# Values with quotes in them

A value is written between quotes as it was typed.  As long as it has no quote itself, it ends where
its quotes do; otherwise it ends before, and what follows is read as a part of the query.  So the
condition for a location tells the location, unless a province goes on with just what is written
between a province and a city.

Key definitions: `FieldStyle.opening`, `FieldStyle.value?`, `Query.bridge`, `Query.Location.given`,
`Query.Imitates`, `Query.readBack?`.  Key statements: `FieldStyle.value?_eq_some_iff`,
`Query.locationClause?_eq`, `Query.clauses_agree_iff`, `Query.clauses_agree`.
-/
import Mathlib.Data.List.Basic
import AssetSearch.Proofs.Backend.WellFormed
import AssetSearch.Proofs.Query.Texts

namespace AssetSearch

/-! ## Where a value ends -/

/-- The text up to the first quote, and what follows the quote. -/
def cutAtQuote (s : List Char) : Option (List Char × List Char) :=
  match s with
  | [] => none
  | c :: rest =>
    if c = '"' then some ([], rest)
    else (cutAtQuote rest).map fun (value, rest) => (c :: value, rest)

theorem cutAtQuote_eq_some_iff {s value rest : List Char} :
    cutAtQuote s = some (value, rest) ↔ s = value ++ '"' :: rest ∧ '"' ∉ value := by
  induction s generalizing value with
  | nil => simp [cutAtQuote]
  | cons c s ih =>
    rw [cutAtQuote]
    by_cases hc : c = '"'
    · subst hc
      rw [if_pos rfl]
      constructor
      · rintro h
        cases h
        exact ⟨rfl, List.not_mem_nil⟩
      · rintro ⟨hs, hvalue⟩
        cases value with
        | nil =>
          cases hs
          rfl
        | cons d value =>
          obtain ⟨rfl, -⟩ := List.cons.inj hs
          exact absurd List.mem_cons_self hvalue
    · rw [if_neg hc, Option.map_eq_some_iff]
      constructor
      · rintro ⟨⟨value', rest'⟩, hcut, heq⟩
        cases heq
        obtain ⟨rfl, hvalue'⟩ := ih.1 hcut
        exact ⟨rfl, List.not_mem_cons_of_ne_of_not_mem (Ne.symm hc) hvalue'⟩
      · rintro ⟨hs, hvalue⟩
        cases value with
        | nil => exact absurd (List.cons.inj hs).1 hc
        | cons d value =>
          obtain ⟨rfl, rfl⟩ := List.cons.inj hs
          exact ⟨_, ih.2 ⟨rfl, List.not_mem_of_not_mem_cons hvalue⟩, rfl⟩

namespace FieldStyle

/-- What is written in front of a value. -/
def opening (style : FieldStyle) (field : String) : String :=
  field ++ style.separator ++ "\""

theorem render_eq (style : FieldStyle) (field value : String) :
    style.render field value = style.opening field ++ value ++ "\"" := rfl

/-- Reads the value of a field at the start of a text: it ends at the first quote behind the one
that opens it.  Also what follows. -/
def value? (style : FieldStyle) (field : String) (s : List Char) : Option (String × List Char) :=
  ((s.dropPrefix? (style.opening field).toList).bind cutAtQuote).map fun (value, rest) =>
    (String.ofList value, rest)

/-- **The value read is one that was written there without a quote.** -/
theorem value?_eq_some_iff {style : FieldStyle} {field value : String} {s rest : List Char} :
    style.value? field s = some (value, rest) ↔
      s = (style.render field value).toList ++ rest ∧ '"' ∉ value.toList := by
  have htext : (style.render field value).toList ++ rest
      = (style.opening field).toList ++ (value.toList ++ '"' :: rest) := by
    simp [render_eq]
  rw [htext, value?, Option.map_eq_some_iff]
  constructor
  · rintro ⟨⟨chars, rest'⟩, hread, heq⟩
    obtain ⟨rfl, rfl⟩ := Prod.mk.inj heq
    rw [String.toList_ofList]
    obtain ⟨tail, hprefix, hcut⟩ := Option.bind_eq_some_iff.1 hread
    obtain ⟨start, hs, hstart⟩ := List.dropPrefix?_eq_some_iff.1 hprefix
    obtain ⟨rfl, hquote⟩ := cutAtQuote_eq_some_iff.1 hcut
    rw [hs, eq_of_beq hstart]
    exact ⟨rfl, hquote⟩
  · rintro ⟨rfl, hquote⟩
    refine ⟨(value.toList, rest), ?_, Prod.ext String.ofList_toList rfl⟩
    rw [List.dropPrefix?_append_of_beq _ BEq.rfl, Option.bind_some]
    exact cutAtQuote_eq_some_iff.2 ⟨rfl, hquote⟩

end FieldStyle

namespace Query

/-! ## Conditions for locations -/

/-- The parts of a location that are given, without blanks around them. -/
def Location.given (l : Location) : Option String × Option String :=
  (l.province.bind Text.filled?, l.city.bind Text.filled?)

/-- What is written between a province and a city. -/
def bridge (platform : Platform) : String :=
  "\"" ++ platform.dialect.connector.separator ++
    platform.dialect.style.opening platform.dialect.cityField

/-- What is written behind a province, if there is a city: the bridge and the city. -/
def behind (platform : Platform) (city : Option String) : String :=
  city.elim "" fun c => bridge platform ++ c

/-- A condition depends on the parts that are given. -/
theorem locationClause?_given (platform : Platform) (l : Location) :
    locationClause? platform l =
      match l.given with
      | (some p, some c) =>
        some (platform.dialect.connector.join (platform.dialect.provinceClause p)
          (platform.dialect.cityClause c))
      | (some p, none) => some (platform.dialect.provinceClause p)
      | (none, some c) => some (platform.dialect.cityClause c)
      | (none, none) => none := by
  unfold locationClause? Location.given
  cases l.province.bind Text.filled? <;> cases l.city.bind Text.filled? <;> rfl

/-- The condition, with the province and what is written behind it as one text between quotes. -/
theorem locationClause?_eq (platform : Platform) (l : Location) :
    locationClause? platform l =
      match l.given with
      | (some p, city) => some (platform.dialect.style.opening platform.dialect.provinceField ++
          (p ++ behind platform city) ++ "\"")
      | (none, some c) =>
        some (platform.dialect.style.opening platform.dialect.cityField ++ c ++ "\"")
      | (none, none) => none := by
  rw [locationClause?_given]
  generalize l.given = given
  obtain ⟨province, city⟩ := given
  cases province with
  | none => cases city <;> rfl
  | some p =>
    cases city with
    | none =>
      show some (platform.dialect.provinceClause p) = some _
      rw [Dialect.provinceClause, FieldStyle.render_eq, behind, Option.elim_none,
        String.append_empty]
    | some c =>
      show some (platform.dialect.connector.join _ _) = some _
      rw [Connector.join_eq, Dialect.provinceClause, Dialect.cityClause, FieldStyle.render_eq,
        FieldStyle.render_eq, behind, bridge, Option.elim_some]
      simp only [String.append_assoc]

/-- A province and a city are told apart by what is in front of them. -/
theorem opening_append_ne (platform : Platform) (s t : String) :
    platform.dialect.style.opening platform.dialect.provinceField ++ s ≠
      platform.dialect.style.opening platform.dialect.cityField ++ t := by
  intro h
  have hlists := congrArg String.toList h
  cases platform <;>
    simp [FieldStyle.opening, FieldStyle.separator, Platform.dialect] at hlists

/-- A bridge starts with a quote and a blank and ends with a quote, and has no other. -/
theorem exists_bridge (platform : Platform) :
    ∃ middle, (bridge platform).toList = '"' :: (' ' :: middle) ++ ['"'] ∧ '"' ∉ ' ' :: middle := by
  refine ⟨((bridge platform).toList.drop 2).dropLast, ?_⟩
  cases platform <;> decide +kernel

/-- A bridge that starts inside another one starts with the last quote of that, so what comes behind
the first one starts with a blank. -/
theorem head_of_overlap {platform : Platform} {t y s s' : List Char} (ht : t ≠ []) (hy : y ≠ [])
    (hbridge : (bridge platform).toList = t ++ y) (h : (bridge platform).toList ++ s = y ++ s') :
    s'.head? = some ' ' := by
  obtain ⟨middle, hform, hquote⟩ := exists_bridge platform
  rw [hform] at hbridge h
  cases t with
  | nil => exact absurd rfl ht
  | cons a t =>
    cases y with
    | nil => exact absurd rfl hy
    | cons d y =>
      obtain ⟨rfl, hrest⟩ := List.cons.inj h
      -- the bridge has no quote between its first and its last character
      have hend :=
        (List.append_cons_inj_of_notMem hquote List.not_mem_nil).1 (List.cons.inj hbridge).2
      obtain rfl := hend.2.2
      have hs' : s' = ' ' :: middle ++ ['"'] ++ s := hrest.symm
      rw [hs']
      rfl

/-- Two texts behind a province, one of which is longer in front: it is longer by a bridge and the
start of its city.  A part of a bridge does not do, because no city starts with a blank. -/
theorem behind_eq_append {platform : Platform} {city city' : Option String} {t : List Char}
    (hcity : ∀ c, city = some c → Text.Filled c)
    (h : (behind platform city).toList = t ++ (behind platform city').toList) :
    (t = [] ∧ city = city') ∨
      ∃ c x, city = some c ∧ t = (bridge platform).toList ++ x ∧
        c.toList = x ++ (behind platform city').toList := by
  have hbehind : ∀ c, (behind platform (some c)).toList = (bridge platform).toList ++ c.toList :=
    fun c => String.toList_append
  have hnonempty : (bridge platform).toList ≠ [] := by
    obtain ⟨middle, hform, -⟩ := exists_bridge platform
    rw [hform]
    exact List.cons_ne_nil _ _
  cases city with
  | none =>
    obtain ⟨ht, hnone⟩ := List.append_eq_nil_iff.1 h.symm
    cases city' with
    | none => exact .inl ⟨ht, rfl⟩
    | some c' =>
      rw [hbehind] at hnone
      exact absurd (List.append_eq_nil_iff.1 hnone).1 hnonempty
  | some c =>
    rw [hbehind] at h
    rcases List.append_eq_append_iff.1 h with ⟨x, ht, hc⟩ | ⟨y, hbridge, hcity'⟩
    · exact .inr ⟨c, x, rfl, ht, hc⟩
    · by_cases hy : y = []
      · subst hy
        rw [List.append_nil] at hbridge
        exact .inr ⟨c, [], rfl, by rw [hbridge, List.append_nil], hcity'.symm⟩
      · cases city' with
        | none => exact absurd (List.append_eq_nil_iff.1 hcity'.symm).1 hy
        | some c' =>
          rw [hbehind] at hcity'
          by_cases ht : t = []
          · subst ht
            rw [List.nil_append] at hbridge
            rw [hbridge, List.append_cancel_left_eq] at hcity'
            exact .inl ⟨rfl, congrArg some (String.toList_inj.1 hcity'.symm)⟩
          · have hblank := (hcity c rfl).start ' ' (head_of_overlap ht hy hbridge hcity')
            exact absurd hblank (by decide)

/-! ## Locations with the same condition -/

/-- The province of a location goes on like another province with its city behind it, of which the
city of the location, if there is one, is the end. -/
def Imitates (platform : Platform) (given' given : Option String × Option String) : Prop :=
  ∃ p c x, given = (some p, some c) ∧ given'.1 = some (p ++ bridge platform ++ x) ∧
    c = x ++ behind platform given'.2

theorem Imitates.append_behind {platform : Platform} {p p' : String} {city city' : Option String}
    (h : Imitates platform (some p', city') (some p, city)) :
    p ++ behind platform city = p' ++ behind platform city' := by
  obtain ⟨q, c, x, hgiven, hq, hc⟩ := h
  obtain ⟨hp, rfl⟩ := Prod.mk.inj hgiven
  obtain rfl := Option.some.inj hp
  obtain rfl := Option.some.inj hq
  rw [behind, Option.elim_some, hc]
  simp only [String.append_assoc]

/-- The first of two equal texts has the shorter province. -/
theorem eq_or_imitates {platform : Platform} {p p' : String} {city city' : Option String}
    (hcity : ∀ c, city = some c → Text.Filled c) {t : List Char} (hp : p'.toList = p.toList ++ t)
    (h : (behind platform city).toList = t ++ (behind platform city').toList) :
    (p = p' ∧ city = city') ∨ Imitates platform (some p', city') (some p, city) := by
  rcases behind_eq_append hcity h with ⟨rfl, rfl⟩ | ⟨c, x, rfl, rfl, hc⟩
  · rw [List.append_nil] at hp
    exact .inl ⟨(String.toList_inj.1 hp).symm, rfl⟩
  · refine .inr ⟨p, c, String.ofList x, rfl, congrArg some ?_, ?_⟩
    · refine String.toList_inj.1 ?_
      rw [hp, String.toList_append, String.toList_append, String.toList_ofList, List.append_assoc]
    · refine String.toList_inj.1 ?_
      rw [hc, String.toList_append, String.toList_ofList]

theorem append_behind_eq_iff {platform : Platform} {p p' : String} {city city' : Option String}
    (hcity : ∀ c, city = some c → Text.Filled c) (hcity' : ∀ c, city' = some c → Text.Filled c) :
    p ++ behind platform city = p' ++ behind platform city' ↔
      (p = p' ∧ city = city') ∨ Imitates platform (some p', city') (some p, city) ∨
        Imitates platform (some p, city) (some p', city') := by
  constructor
  · intro h
    have hlists := congrArg String.toList h
    rw [String.toList_append, String.toList_append] at hlists
    rcases List.append_eq_append_iff.1 hlists with ⟨t, hp, ht⟩ | ⟨t, hp, ht⟩
    · rcases eq_or_imitates hcity hp ht with hsame | himitates
      · exact .inl hsame
      · exact .inr (.inl himitates)
    · rcases eq_or_imitates hcity' hp ht with ⟨rfl, rfl⟩ | himitates
      · exact .inl ⟨rfl, rfl⟩
      · exact .inr (.inr himitates)
  · rintro (⟨rfl, rfl⟩ | himitates | himitates)
    · rfl
    · exact himitates.append_behind
    · exact himitates.append_behind.symm

@[simp] theorem not_imitates_none (platform : Platform) (city : Option String)
    (given : Option String × Option String) : ¬ Imitates platform (none, city) given := by
  rintro ⟨_, _, _, -, hprovince, -⟩
  cases hprovince

@[simp] theorem not_none_imitated (platform : Platform) (given' : Option String × Option String)
    (city : Option String) : ¬ Imitates platform given' (none, city) := by
  rintro ⟨_, _, _, hgiven, -⟩
  cases hgiven

/-- The part is not given, or without a quote. -/
def QuoteFree (part : Option String) : Prop :=
  ∀ s ∈ part, '"' ∉ s.toList

instance (part : Option String) : Decidable (QuoteFree part) :=
  inferInstanceAs (Decidable (∀ s ∈ part, '"' ∉ s.toList))

/-- A province that goes on with a bridge has the quote of the bridge. -/
theorem Imitates.not_quoteFree {platform : Platform} {given' given : Option String × Option String}
    (h : Imitates platform given' given) : ¬ QuoteFree given'.1 := by
  obtain ⟨p, c, x, -, hprovince, -⟩ := h
  obtain ⟨middle, hform, -⟩ := exists_bridge platform
  intro hfree
  refine hfree _ hprovince ?_
  simp [hform]

theorem locationClause?_eq_iff (platform : Platform) (l l' : Location) :
    locationClause? platform l = locationClause? platform l' ↔
      l.given = l'.given ∨ Imitates platform l'.given l.given ∨
        Imitates platform l.given l'.given := by
  have hcity : ∀ l : Location, ∀ c, l.given.2 = some c → Text.Filled c := by
    intro l c hc
    obtain ⟨s, -, hs⟩ := Option.bind_eq_some_iff.1 hc
    exact Text.filled_of_filled? hs
  have hl := hcity l
  have hl' := hcity l'
  rw [locationClause?_eq, locationClause?_eq]
  generalize l.given = given at hl ⊢
  generalize l'.given = given' at hl' ⊢
  obtain ⟨province, city⟩ := given
  obtain ⟨province', city'⟩ := given'
  cases province with
  | some p =>
    cases province' with
    | some p' =>
      rw [Option.some_inj, String.append_left_inj, String.append_right_inj,
        append_behind_eq_iff hl hl', Prod.mk.injEq, Option.some_inj]
    | none =>
      cases city' with
      | none => simp
      | some c' => simpa [String.append_assoc] using opening_append_ne platform _ _
  | none =>
    cases province' with
    | some p' =>
      cases city with
      | none => simp
      | some c => simpa [String.append_assoc] using (opening_append_ne platform _ _).symm
    | none => cases city <;> cases city' <;> simp [String.append_left_inj, String.append_right_inj]

/-! ## Reading a condition back -/

/-- Reads a condition for a city, up to the end. -/
def readCity? (platform : Platform) (s : List Char) : Option String :=
  (platform.dialect.style.value? platform.dialect.cityField s).bind fun (city, rest) =>
    if rest = [] then some city else none

/-- Reads the condition for a location: the province if it starts with one, and the city. -/
def readBack? (platform : Platform) (s : List Char) : Option (Option String × Option String) :=
  match platform.dialect.style.value? platform.dialect.provinceField s with
  | none => (readCity? platform s).map fun city => (none, some city)
  | some (province, rest) =>
    if rest = [] then some (some province, none)
    else
      ((rest.dropPrefix? platform.dialect.connector.separator.toList).bind
        (readCity? platform)).map fun city => (some province, some city)

theorem readCity?_eq_some_iff {platform : Platform} {s : List Char} {city : String} :
    readCity? platform s = some city ↔
      s = (platform.dialect.cityClause city).toList ∧ '"' ∉ city.toList := by
  rw [readCity?, Option.bind_eq_some_iff]
  constructor
  · rintro ⟨⟨value, rest⟩, hvalue, hcity⟩
    obtain ⟨hrest, heq⟩ := Option.ite_none_right_eq_some.1 hcity
    obtain rfl := Option.some.inj heq
    obtain rfl := hrest
    rw [FieldStyle.value?_eq_some_iff, List.append_nil] at hvalue
    exact hvalue
  · intro h
    refine ⟨(city, []), FieldStyle.value?_eq_some_iff.2 ?_, if_pos rfl⟩
    rw [List.append_nil]
    exact h

/-- What is read has no quote. -/
theorem quoteFree_of_readBack? {platform : Platform} {s : List Char}
    {parts : Option String × Option String} (h : readBack? platform s = some parts) :
    QuoteFree parts.1 ∧ QuoteFree parts.2 := by
  have hnone : QuoteFree none := fun _ h => nomatch h
  have hsome : ∀ {value : String}, '"' ∉ value.toList → QuoteFree (some value) := by
    intro value hvalue s hs
    cases hs
    exact hvalue
  rw [readBack?] at h
  split at h
  · next hprovince =>
    obtain ⟨city, hcity, rfl⟩ := Option.map_eq_some_iff.1 h
    exact ⟨hnone, hsome (readCity?_eq_some_iff.1 hcity).2⟩
  · next province rest hprovince =>
    have hp := hsome (FieldStyle.value?_eq_some_iff.1 hprovince).2
    split at h
    · cases h
      exact ⟨hp, hnone⟩
    · obtain ⟨city, hread, rfl⟩ := Option.map_eq_some_iff.1 h
      obtain ⟨tail, -, hcity⟩ := Option.bind_eq_some_iff.1 hread
      exact ⟨hp, hsome (readCity?_eq_some_iff.1 hcity).2⟩

/-- A condition for a city does not start like one for a province. -/
theorem value?_cityClause (platform : Platform) (city : String) :
    platform.dialect.style.value? platform.dialect.provinceField
      (platform.dialect.cityClause city).toList = none := by
  refine Option.eq_none_iff_forall_ne_some.2 ?_
  rintro ⟨p, rest⟩ hvalue
  have htext := (FieldStyle.value?_eq_some_iff.1 hvalue).1
  refine opening_append_ne platform (p ++ "\"" ++ String.ofList rest) (city ++ "\"") ?_
  refine String.toList_inj.1 ?_
  simpa [Dialect.cityClause, FieldStyle.render_eq] using htext.symm

theorem readBack?_clause {platform : Platform} {l : Location} {clause : String}
    (hclause : locationClause? platform l = some clause) (hprovince : QuoteFree l.given.1)
    (hcity : QuoteFree l.given.2) : readBack? platform clause.toList = some l.given := by
  have hfirst : ∀ {p : String} (rest : List Char), '"' ∉ p.toList →
      platform.dialect.style.value? platform.dialect.provinceField
        ((platform.dialect.provinceClause p).toList ++ rest) = some (p, rest) :=
    fun rest hp => FieldStyle.value?_eq_some_iff.2 ⟨rfl, hp⟩
  have hlast : ∀ {c : String}, '"' ∉ c.toList →
      readCity? platform (platform.dialect.cityClause c).toList = some c :=
    fun hc => readCity?_eq_some_iff.2 ⟨rfl, hc⟩
  rw [locationClause?_given] at hclause
  generalize l.given = given at hclause hprovince hcity ⊢
  obtain ⟨province, city⟩ := given
  cases province with
  | none =>
    cases city with
    | none => cases hclause
    | some c =>
      cases hclause
      rw [readBack?, value?_cityClause, hlast (hcity c rfl)]
      rfl
  | some p =>
    cases city with
    | none =>
      cases hclause
      have hvalue := hfirst [] (hprovince p rfl)
      rw [List.append_nil] at hvalue
      rw [readBack?, hvalue]
      rfl
    | some c =>
      cases hclause
      have hmore : platform.dialect.connector.separator.toList ++
          (platform.dialect.cityClause c).toList ≠ [] := by
        simp [Dialect.cityClause, FieldStyle.render_eq]
      rw [Connector.join_eq, String.toList_append, String.toList_append, List.append_assoc,
        readBack?, hfirst _ (hprovince p rfl)]
      simp only [if_neg hmore]
      rw [List.dropPrefix?_append_of_beq _ BEq.rfl, Option.bind_some, hlast (hcity c rfl)]
      rfl

/-! ## What a condition tells -/

/-- **When two locations have the same condition.**  They have the same parts, or a province goes on
like the other location behind its province.  So conditions differ as long as no province has a
quote, and a condition is read back as the parts given just if none of them has one. -/
theorem clauses_agree_iff (platform : Platform) :
    (∀ l l', locationClause? platform l = locationClause? platform l' ↔
      l.given = l'.given ∨ Imitates platform l'.given l.given ∨
        Imitates platform l.given l'.given) ∧
    (∀ l l', l.given ≠ l'.given → QuoteFree l.given.1 → QuoteFree l'.given.1 →
      locationClause? platform l ≠ locationClause? platform l') ∧
    (∀ l, (locationClause? platform l).bind (fun clause => readBack? platform clause.toList) =
        some l.given ↔
      l.given ≠ (none, none) ∧ QuoteFree l.given.1 ∧ QuoteFree l.given.2) := by
  refine ⟨locationClause?_eq_iff platform, ?_, ?_⟩
  · intro l l' hne hfree hfree' hsame
    rcases (locationClause?_eq_iff platform l l').1 hsame with hgiven | himitates | himitates
    · exact hne hgiven
    · exact himitates.not_quoteFree hfree'
    · exact himitates.not_quoteFree hfree
  · intro l
    constructor
    · intro hread
      obtain ⟨clause, hclause, hparts⟩ := Option.bind_eq_some_iff.1 hread
      refine ⟨?_, quoteFree_of_readBack? hparts⟩
      intro hnone
      rw [locationClause?_eq, hnone] at hclause
      cases hclause
    · rintro ⟨hgiven, hprovince, hcity⟩
      cases hclause : locationClause? platform l with
      | none =>
        rw [locationClause?_eq] at hclause
        split at hclause
        · cases hclause
        · cases hclause
        · next hnone => exact absurd hnone hgiven
      | some clause => exact readBack?_clause hclause hprovince hcity

theorem clauses_agree_iff_quoted_city :
    locationClause? .quake ⟨some "a AND city: b", none⟩ ≠
      locationClause? .quake ⟨some " a ", some "b\" AND province: \"c"⟩ := by
  refine (clauses_agree_iff .quake).2.1 ⟨some "a AND city: b", none⟩
    ⟨some " a ", some "b\" AND province: \"c"⟩ ?_ ?_ ?_ <;> decide +kernel

/-- A province that closes its quotes and adds the condition for a city. -/
theorem clauses_agree :
    ¬ ∀ platform l l', l.given ≠ l'.given → l.given ≠ (none, none) → l'.given ≠ (none, none) →
      locationClause? platform l ≠ locationClause? platform l' := by
  intro h
  refine h .hunter ⟨some "a", some "b"⟩ ⟨some "a\" && ip.city=\"b", none⟩ ?_ ?_ ?_ ?_ <;>
    decide +kernel

end Query

end AssetSearch
