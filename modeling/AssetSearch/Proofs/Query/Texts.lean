/-
# The text of a query over a whole run

What is written into a query field is blank, or a row of pieces with the connector of the platform
between them: the piece that the text was begun with, and every fragment and location that was added
since.  Nothing in it goes back to a time before the last change of the platform.

Key definitions: `Connector.separator`, `Query.Location.IsBlank`, `Composer.Action`, `Composer.run`,
`Composer.Emptied`, `Composer.Composed`.  Key statements: `locationClause?_eq_none_iff`,
`emptied_or_composed`, `text_of_run`.
-/
import Mathlib.Data.List.Induction
import AssetSearch.Query.Composer

namespace AssetSearch

/-! ## Pieces and connectors -/

theorem Text.blank_append (s t : String) : blank (s ++ t) = (blank s && blank t) := by
  rw [blank, String.toList_append, List.all_append]
  rfl

namespace Connector

/-- What stands between two pieces of a text. -/
def separator (c : Connector) : String :=
  " " ++ c.token ++ " "

theorem join_eq (c : Connector) (left right : String) :
    c.join left right = left ++ c.separator ++ right := by
  simp only [join, separator, String.append_assoc]

/-- One more piece. -/
theorem join_intercalate (c : Connector) {pieces : List String} (h : pieces ≠ []) (piece : String) :
    c.join (c.separator.intercalate pieces) piece
      = c.separator.intercalate (pieces ++ [piece]) := by
  rw [join_eq, String.intercalate_append_of_ne_nil h (List.cons_ne_nil piece []),
    String.intercalate_singleton]

theorem blank_join {c : Connector} {left : String} (h : Text.blank left = false) (right : String) :
    Text.blank (c.join left right) = false := by
  rw [join_eq, Text.blank_append, Text.blank_append, h]
  rfl

end Connector

namespace Query

/-! ## Locations -/

/-- Neither a province nor a city is given. -/
def Location.IsBlank (l : Location) : Prop :=
  (∀ province, l.province = some province → Text.blank province = true) ∧
    ∀ city, l.city = some city → Text.blank city = true

theorem bind_filled?_eq_none_iff (part : Option String) :
    part.bind Text.filled? = none ↔ ∀ s, part = some s → Text.blank s = true := by
  cases part with
  | none => simp
  | some s => simp [Text.filled?]

/-- A location has a condition just if one of its parts is given. -/
theorem locationClause?_eq_none_iff (platform : Platform) (l : Location) :
    locationClause? platform l = none ↔ l.IsBlank := by
  rw [Location.IsBlank, ← bind_filled?_eq_none_iff, ← bind_filled?_eq_none_iff, locationClause?]
  cases l.province.bind Text.filled? <;> cases l.city.bind Text.filled? <;> simp

/-- A condition has quotes in it. -/
theorem blank_render (style : FieldStyle) (field value : String) :
    Text.blank (style.render field value) = false := by
  have hquote : Text.blank "\"" = false := by decide
  rw [FieldStyle.render, Text.blank_append, hquote, Bool.and_false]

theorem blank_locationClause? {platform : Platform} {l : Location} {clause : String}
    (h : locationClause? platform l = some clause) : Text.blank clause = false := by
  unfold locationClause? at h
  dsimp only at h
  split at h
  · next p c hp hc =>
    obtain ⟨value, -, rfl⟩ := Option.map_eq_some_iff.1 hp
    obtain rfl := Option.some.inj h
    exact Connector.blank_join (blank_render _ _ value) c
  · next p hp hc =>
    obtain ⟨value, -, rfl⟩ := Option.map_eq_some_iff.1 hp
    obtain rfl := Option.some.inj h
    exact blank_render _ _ value
  · next c hp hc =>
    obtain ⟨value, -, rfl⟩ := Option.map_eq_some_iff.1 hc
    obtain rfl := Option.some.inj h
    exact blank_render _ _ value
  · cases h

end Query

namespace Composer

/-! ## Runs -/

/-- What is done to a query field. -/
inductive Action where
  | setText (text : String)
  | select (fragment : String)
  | applyLocation (location : Query.Location) (append : Bool)
  | switchPlatform (platform : Platform)
  | clear

/-- One operation. -/
def act (c : Composer) : Action → Composer
  | .setText text => c.setText text
  | .select fragment => c.select fragment
  | .applyLocation location append => (c.applyLocation location append).2
  | .switchPlatform platform => c.switchPlatform platform
  | .clear => c.clear

/-- Some operations, one after the other. -/
def run (c : Composer) (as : List Action) : Composer :=
  as.foldl act c

theorem run_append (c : Composer) (as as' : List Action) :
    c.run (as ++ as') = (c.run as).run as' := by
  rw [run, run, run, List.foldl_append]

/-- **Nothing from before a change of the platform is left.** -/
theorem run_switchPlatform (c : Composer) (before after : List Action) (platform : Platform) :
    c.run (before ++ .switchPlatform platform :: after) = (new platform).run after := by
  rw [run_append]
  rfl

/-! ## Locations -/

variable {c : Composer} {location : Query.Location}

theorem applyLocation_of_isBlank (c : Composer) (h : location.IsBlank) (append : Bool) :
    c.applyLocation location append = (false, c) := by
  unfold applyLocation Query.applyLocation?
  rw [(Query.locationClause?_eq_none_iff c.platform location).2 h]
  rfl

/-- A location that is given replaces the text, or is joined to a text that is not blank. -/
theorem applyLocation_of_clause {clause : String}
    (h : Query.locationClause? c.platform location = some clause) (append : Bool) :
    c.applyLocation location append
      = (true,
          { c with text := if append then Query.extend c.platform c.text clause else clause }) := by
  unfold applyLocation Query.applyLocation?
  rw [h]
  rfl

theorem platform_applyLocation (c : Composer) (location : Query.Location) (append : Bool) :
    (c.applyLocation location append).2.platform = c.platform := by
  unfold applyLocation
  split <;> rfl

/-- **A location is refused just if none of its parts is given.** -/
theorem applyLocation_fst_eq_false_iff (c : Composer) (location : Query.Location) (append : Bool) :
    (c.applyLocation location append).1 = false ↔ location.IsBlank := by
  cases hclause : Query.locationClause? c.platform location with
  | none =>
    have hblank := (Query.locationClause?_eq_none_iff _ _).1 hclause
    rw [applyLocation_of_isBlank c hblank]
    exact iff_of_true rfl hblank
  | some clause =>
    rw [applyLocation_of_clause hclause, ← Query.locationClause?_eq_none_iff c.platform, hclause]
    simp

/-! ## What a text is made of -/

namespace Action

/-- An operation that leaves the text blank. -/
def Empties : Action → Prop
  | setText text => Text.blank text = true
  | switchPlatform _ | clear => True
  | select _ | applyLocation .. => False

/-- An operation that has no effect on the text: a location without parts. -/
def Idles : Action → Prop
  | applyLocation location _ => location.IsBlank
  | _ => False

/-- An operation that begins the text of a query field anew. -/
def Begins (c : Composer) : Action → Prop
  | setText text => Text.blank text = false
  | select _ => Text.blank c.text = true
  | applyLocation location append =>
    ¬ location.IsBlank ∧ (append = false ∨ Text.blank c.text = true)
  | switchPlatform _ | clear => False

/-- An operation that adds to a text that is not blank, or leaves it alone. -/
def Extends : Action → Prop
  | select _ => True
  | applyLocation location append => append = true ∨ location.IsBlank
  | setText _ | switchPlatform _ | clear => False

/-- What an operation brings to the text, as it is written for a platform. -/
def piece? (platform : Platform) : Action → Option String
  | setText text => some text
  | select fragment => some fragment
  | applyLocation location _ => Query.locationClause? platform location
  | switchPlatform _ | clear => none

end Action

/-- The text is blank, and the last operation that had an effect on it, if there was one, left it
so. -/
structure Emptied (c : Composer) (as : List Action) : Prop where
  blank : Text.blank c.text = true
  last : ∀ before a idle, as = before ++ a :: idle → (∀ x ∈ idle, x.Idles) → ¬ a.Idles → a.Empties

/-- The text is not blank: it is the piece of the operation that has begun it and those of all later
operations, in order and with the connector of the platform in between. -/
structure Composed (start c : Composer) (before : List Action) (base : Action)
    (since : List Action) : Prop where
  begins : base.Begins (start.run before)
  extend : ∀ a ∈ since, a.Extends
  filled : Text.blank c.text = false
  text : c.text = c.platform.dialect.connector.separator.intercalate
    ((base :: since).filterMap (Action.piece? c.platform))

/-! ## One operation -/

section Steps

variable {start : Composer} {as before since : List Action} {base a : Action}

/-- How a history that ends with an operation is split. -/
theorem concat_eq_append_cons {b : Action} {rest : List Action}
    (h : as ++ [a] = before ++ b :: rest) :
    rest = [] ∧ a = b ∨ ∃ init, rest = init ++ [a] ∧ as = before ++ b :: init := by
  rcases rest.eq_nil_or_concat with rfl | ⟨init, x, rfl⟩
  · obtain ⟨-, hb⟩ := List.append_inj' h rfl
    exact .inl ⟨rfl, List.head_eq_of_cons_eq hb⟩
  · rw [List.concat_eq_append, ← List.cons_append, ← List.append_assoc] at h
    obtain ⟨has, hx⟩ := List.append_inj' h rfl
    obtain rfl := List.head_eq_of_cons_eq hx
    exact .inr ⟨init, List.concat_eq_append, has⟩

theorem Action.Empties.not_idles (h : a.Empties) : ¬ a.Idles := by
  cases a <;> first | exact id | exact h.elim

theorem emptied_of_empties (h : a.Empties) (hblank : Text.blank (c.act a).text = true) :
    (c.act a).Emptied (as ++ [a]) := by
  refine ⟨hblank, ?_⟩
  intro before b idle hsplit hidle _
  rcases concat_eq_append_cons hsplit with ⟨-, rfl⟩ | ⟨init, rfl, -⟩
  · exact h
  · exact absurd (hidle a (List.mem_append_right init List.mem_cons_self)) h.not_idles

theorem Emptied.idle (h : c.Emptied as) (ha : a.Idles) : c.Emptied (as ++ [a]) := by
  refine ⟨h.blank, ?_⟩
  intro before b idle hsplit hidle hb
  rcases concat_eq_append_cons hsplit with ⟨-, rfl⟩ | ⟨init, rfl, has⟩
  · exact absurd ha hb
  · exact h.last before b init has (fun x hx => hidle x (List.mem_append_left [a] hx)) hb

theorem composed_of_begins {piece : String} (h : a.Begins (start.run as))
    (hpiece : a.piece? c.platform = some piece) (htext : c.text = piece)
    (hfilled : Text.blank piece = false) : Composed start c as a [] := by
  refine ⟨h, fun _ hx => absurd hx List.not_mem_nil, htext ▸ hfilled, ?_⟩
  rw [List.filterMap_cons_some hpiece, List.filterMap_nil, String.intercalate_singleton, htext]

/-- The pieces of a text that is not blank. -/
theorem Composed.pieces_ne_nil (h : Composed start c before base since) :
    (base :: since).filterMap (Action.piece? c.platform) ≠ [] := by
  intro hnil
  have hfilled := h.filled
  rw [h.text, hnil, String.intercalate_nil] at hfilled
  cases hfilled

theorem Composed.idle (h : Composed start c before base since) {location : Query.Location}
    (hblank : location.IsBlank) (append : Bool) :
    Composed start c before base (since ++ [.applyLocation location append]) := by
  refine ⟨h.begins, ?_, h.filled, ?_⟩
  · exact List.forall_mem_append.2 ⟨h.extend, List.forall_mem_singleton.2 (.inr hblank)⟩
  · have hnone : Action.piece? c.platform (.applyLocation location append) = none :=
      (Query.locationClause?_eq_none_iff c.platform location).2 hblank
    rw [← List.cons_append, List.filterMap_append, List.filterMap_cons_none hnone,
      List.filterMap_nil, List.append_nil]
    exact h.text

/-- One more piece is joined to the text. -/
theorem Composed.extended (h : Composed start c before base since) {c' : Composer} {piece : String}
    (hextends : a.Extends) (hplatform : c'.platform = c.platform)
    (hpiece : a.piece? c.platform = some piece)
    (htext : c'.text = c.platform.dialect.connector.join c.text piece) :
    Composed start c' before base (since ++ [a]) := by
  refine ⟨h.begins, ?_, ?_, ?_⟩
  · exact List.forall_mem_append.2 ⟨h.extend, List.forall_mem_singleton.2 hextends⟩
  · rw [htext]
    exact Connector.blank_join h.filled piece
  · rw [htext, hplatform, ← List.cons_append, List.filterMap_append,
      List.filterMap_cons_some hpiece, List.filterMap_nil,
      ← Connector.join_intercalate _ h.pieces_ne_nil, ← h.text]

end Steps

/-! ## Whole runs -/

/-- What the text of a query field is after some operations. -/
def Written (start c : Composer) (as : List Action) : Prop :=
  c.Emptied as ∨ ∃ before base since, as = before ++ base :: since ∧
    Composed start c before base since

/-- **One more operation** leaves the text blank, begins it anew, adds a piece, or does nothing. -/
theorem written_concat {start : Composer} {as : List Action}
    (h : Written start (start.run as) as) {a : Action}
    (ha : ∀ fragment, a = .select fragment → Text.blank fragment = false) :
    Written start ((start.run as).act a) (as ++ [a]) := by
  generalize hc : start.run as = c at h ⊢
  cases a with
  | setText text =>
    cases htext : Text.blank text with
    | true => exact .inl (emptied_of_empties htext htext)
    | false =>
      exact .inr ⟨as, .setText text, [], rfl, composed_of_begins htext rfl rfl htext⟩
  | select fragment =>
    have hfilled := ha fragment rfl
    rcases h with hblank | ⟨before, base, since, rfl, hcomposed⟩
    · have htext : (c.act (.select fragment)).text = fragment := if_pos hblank.blank
      refine .inr ⟨as, .select fragment, [], rfl, ?_⟩
      refine composed_of_begins ?_ rfl htext hfilled
      rw [hc]
      exact hblank.blank
    · have htext : (c.act (.select fragment)).text
          = c.platform.dialect.connector.join c.text fragment :=
        if_neg (by simp [hcomposed.filled])
      refine .inr ⟨before, base, since ++ [.select fragment], List.append_assoc .., ?_⟩
      exact hcomposed.extended trivial rfl rfl htext
  | applyLocation location append =>
    cases hclause : Query.locationClause? c.platform location with
    | none =>
      have hidle := (Query.locationClause?_eq_none_iff c.platform location).1 hclause
      have hsame : c.act (.applyLocation location append) = c :=
        congrArg Prod.snd (applyLocation_of_isBlank c hidle append)
      rw [hsame]
      rcases h with hblank | ⟨before, base, since, rfl, hcomposed⟩
      · exact .inl (hblank.idle hidle)
      · exact .inr ⟨before, base, _, List.append_assoc .., hcomposed.idle hidle append⟩
    | some clause =>
      have hgiven : ¬ location.IsBlank := by
        rw [← Query.locationClause?_eq_none_iff c.platform, hclause]
        exact Option.some_ne_none clause
      have hfilled := Query.blank_locationClause? hclause
      have hact : c.act (.applyLocation location append) = { c with
          text := if append then Query.extend c.platform c.text clause else clause } :=
        congrArg Prod.snd (applyLocation_of_clause hclause append)
      rw [hact]
      by_cases hanew : append = false ∨ Text.blank c.text = true
      · refine .inr ⟨as, .applyLocation location append, [], rfl, ?_⟩
        refine composed_of_begins ⟨hgiven, hc ▸ hanew⟩ hclause ?_ hfilled
        rcases hanew with rfl | hblank
        · rfl
        · cases append
          · rfl
          · exact if_pos hblank
      · -- the text is not blank, so it is one of pieces
        obtain ⟨happend, hblank⟩ := not_or.1 hanew
        rcases h with hempty | ⟨before, base, since, rfl, hcomposed⟩
        · exact absurd hempty.blank hblank
        · obtain rfl : append = true := eq_true_of_ne_false happend
          refine .inr ⟨before, base, _, List.append_assoc .., ?_⟩
          exact hcomposed.extended (.inl rfl) rfl hclause (if_neg hblank)
  | switchPlatform platform => exact .inl (emptied_of_empties trivial rfl)
  | clear => exact .inl (emptied_of_empties trivial rfl)

theorem written_run (platform : Platform) (as : List Action)
    (h : ∀ fragment, .select fragment ∈ as → Text.blank fragment = false) :
    Written (new platform) ((new platform).run as) as := by
  induction as using List.reverseRecOn with
  | nil =>
    refine .inl ⟨rfl, ?_⟩
    intro before a idle hnil
    exact absurd hnil.symm (List.append_ne_nil_of_right_ne_nil before (List.cons_ne_nil a idle))
  | append_singleton as a ih =>
    have hbefore := ih fun fragment hmem => h fragment (List.mem_append_left [a] hmem)
    rw [run_append]
    refine written_concat hbefore ?_
    rintro fragment rfl
    exact h fragment (List.mem_append_right as List.mem_cons_self)

/-- **The text over whole runs.**  After any operations on a query field, with fragments that are
not blank, the text is blank, and then the last operation with an effect on it emptied it; or it is
not, and consists of the piece that it was begun with and those added since, in order, with the
connector of the current platform between them.  A location is refused just if no part of it is
given, and then nothing changes.  And whatever came before a change of the platform has left no
trace. -/
theorem text_of_run (platform : Platform) (as : List Action)
    (h : ∀ fragment, .select fragment ∈ as → Text.blank fragment = false) :
    let c := (new platform).run as
    (c.Emptied as ∨ ∃ before base since, as = before ++ base :: since ∧
      Composed (new platform) c before base since) ∧
    (∀ location append, ((c.applyLocation location append).1 = false ↔ location.IsBlank) ∧
      (location.IsBlank → (c.applyLocation location append).2 = c)) ∧
    ∀ before p after, as = before ++ .switchPlatform p :: after → c = (new p).run after := by
  intro c
  refine ⟨written_run platform as h, ?_, ?_⟩
  · intro location append
    refine ⟨applyLocation_fst_eq_false_iff c location append, fun hblank => ?_⟩
    rw [applyLocation_of_isBlank c hblank]
  · rintro before p after rfl
    exact run_switchPlatform (new platform) before after p

/-- A query that was begun on another platform, and a location added to it after an empty one. -/
theorem text_of_run_located :
    let as : List Action := [.setText "ip=\"1.1.1.1\"", .switchPlatform .quake, .select "port: 22",
      .applyLocation ⟨some " ", none⟩ false, .applyLocation ⟨some "Beijing ", some "Haidian"⟩ true]
    let c := (new .fofa).run as
    (∀ fragment, .select fragment ∈ as → Text.blank fragment = false) ∧
      c.text = "port: 22 AND province: \"Beijing\" AND city: \"Haidian\"" ∧
      (∃ before base since, as = before ++ base :: since ∧
        Composed (new .fofa) c before base since) ∧
      c = (new .quake).run (as.drop 2) := by
  intro as c
  have hfragments : ∀ fragment, .select fragment ∈ as → Text.blank fragment = false := by
    intro fragment hmem
    obtain rfl : fragment = "port: 22" := by simpa [as] using hmem
    decide
  have htext : c.text = "port: 22 AND province: \"Beijing\" AND city: \"Haidian\"" := by decide
  obtain ⟨hmade, -, hswitched⟩ := text_of_run .fofa as hfragments
  refine ⟨hfragments, htext, hmade.resolve_left ?_, hswitched (as.take 1) .quake _ rfl⟩
  intro hempty
  have hblank := hempty.blank
  rw [htext] at hblank
  exact absurd hblank (by decide)

end Composer

end AssetSearch
