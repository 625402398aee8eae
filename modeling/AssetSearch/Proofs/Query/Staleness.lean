/-
# Suggestions that lag behind the text

The suggestions of a query field are computed when its text is typed, and dropped with the text.  A
fragment or a location changes the text only, so what is suggested afterwards goes with the text
that was typed last, while the word at the end of the text is that of the piece written last.

Key definitions: `Composer.UpToDate`, `Composer.typed`, `Composer.lastPiece`, `Composer.Follows`.
Key statements: `Query.suggestions_extend`, `Follows.act`, `follows_run`, `upToDate_run_iff`.
-/
import AssetSearch.Proofs.Query.Narrowing
import AssetSearch.Proofs.Query.Texts

namespace AssetSearch

/-! ## Pieces and their suggestions -/

namespace Query

/-- The connector ends with a boundary. -/
theorem lastToken_join (c : Connector) (left right : String) :
    lastToken (c.join left right) = lastToken right := by
  have hspace : (c.join left right).toList
      = (left ++ " " ++ c.token).toList ++ ' ' :: right.toList := by
    rw [Connector.join, String.toList_append, String.toList_append, List.append_assoc]
    rfl
  rw [lastToken, hspace, lastWord_append_cons (by decide), lastToken]

/-- **What a fragment is written behind does not matter** for the suggestions. -/
theorem suggestions_extend (platform : Platform) (query fragment : String) :
    suggestions platform (extend platform query fragment) = suggestions platform fragment := by
  rw [extend]
  split
  · rfl
  · rw [suggestions_eq_filter, lastToken_join, ← suggestions_eq_filter]

end Query

namespace Composer

/-! ## What was typed and what was written last -/

/-- The suggestions are those for the text, or there is neither a text nor a suggestion. -/
def UpToDate (c : Composer) : Prop :=
  c.suggestions = [] ∧ c.text = "" ∨ c.suggestions = Query.suggestions c.platform c.text

instance (c : Composer) : Decidable c.UpToDate :=
  inferInstanceAs (Decidable (_ ∨ _))

namespace Action

/-- The text typed last, once an operation is done. -/
def typedAfter (typed : Option String) : Action → Option String
  | setText text => some text
  | select _ | applyLocation .. => typed
  | switchPlatform _ | clear => none

/-- The piece written last, once an operation is done on a query for a platform. -/
def pieceAfter (platform : Platform) (piece : Option String) : Action → Option String
  | switchPlatform _ | clear => none
  | a => (a.piece? platform).or piece

end Action

/-- The text that was typed last, since the query was last begun anew. -/
def typed (as : List Action) : Option String :=
  as.foldl Action.typedAfter none

/-- The piece that was written last, since the query was last begun anew. -/
def lastPiece (platform : Platform) (as : List Action) : Option String :=
  as.foldl (Action.pieceAfter platform) none

theorem typed_concat (as : List Action) (a : Action) :
    typed (as ++ [a]) = a.typedAfter (typed as) :=
  List.foldl_concat ..

theorem lastPiece_concat (platform : Platform) (as : List Action) (a : Action) :
    lastPiece platform (as ++ [a]) = a.pieceAfter platform (lastPiece platform as) :=
  List.foldl_concat ..

/-- The suggestions for a text that may be missing. -/
def suggestionsFor (platform : Platform) (text : Option String) : List Hint :=
  (text.map (Query.suggestions platform)).getD []

/-! ## One operation -/

/-- What is suggested goes with the text typed last; the text has the suggestions of the piece
written last, and when there is none, then nothing was typed and the text is empty. -/
structure Follows (c : Composer) (typed piece : Option String) : Prop where
  suggested : c.suggestions = suggestionsFor c.platform typed
  unwritten : piece = none → typed = none ∧ c.text = ""
  written : ∀ s, piece = some s →
    Query.suggestions c.platform c.text = Query.suggestions c.platform s

/-- A fresh piece at the end of the text, and the suggestions as they were. -/
theorem Follows.insert {c : Composer} {typed piece : Option String} (h : c.Follows typed piece)
    {text s : String}
    (htext : Query.suggestions c.platform text = Query.suggestions c.platform s) :
    ({ c with text := text } : Composer).Follows typed (some s) where
  suggested := h.suggested
  unwritten hnone := by cases hnone
  written s' hs := by
    cases hs
    exact htext

theorem Follows.act {c : Composer} {typed piece : Option String} (h : c.Follows typed piece)
    (a : Action) : (c.act a).Follows (a.typedAfter typed) (a.pieceAfter c.platform piece) := by
  cases a with
  | setText text =>
    refine ⟨rfl, fun hnone => (by cases hnone), fun s hs => ?_⟩
    cases hs
    rfl
  | select fragment =>
    exact h.insert (Query.suggestions_extend c.platform c.text fragment)
  | applyLocation location append =>
    show (c.applyLocation location append).2.Follows typed
      ((Query.locationClause? c.platform location).or piece)
    cases hclause : Query.locationClause? c.platform location with
    | none =>
      have hblank := (Query.locationClause?_eq_none_iff c.platform location).1 hclause
      rw [applyLocation_of_isBlank c hblank]
      exact h
    | some clause =>
      rw [applyLocation_of_clause hclause]
      refine h.insert ?_
      cases append
      · rfl
      · exact Query.suggestions_extend c.platform c.text clause
  | switchPlatform platform => exact ⟨rfl, fun _ => ⟨rfl, rfl⟩, fun _ hs => (by cases hs)⟩
  | clear => exact ⟨rfl, fun _ => ⟨rfl, rfl⟩, fun _ hs => (by cases hs)⟩

/-! ## Whole runs -/

/-- An operation that changes the platform leaves no piece; the others leave the platform. -/
theorem lastPiece_act (c : Composer) (as : List Action) (a : Action) :
    lastPiece (c.act a).platform (as ++ [a])
      = a.pieceAfter c.platform (lastPiece c.platform as) := by
  rw [lastPiece_concat]
  cases a with
  | setText | select | switchPlatform | clear => rfl
  | applyLocation location append =>
    have hplatform : (c.act (.applyLocation location append)).platform = c.platform :=
      c.platform_applyLocation location append
    rw [hplatform]

theorem follows_run (platform : Platform) (as : List Action) :
    ((new platform).run as).Follows (typed as)
      (lastPiece ((new platform).run as).platform as) := by
  induction as using List.reverseRecOn with
  | nil => exact ⟨rfl, fun _ => ⟨rfl, rfl⟩, fun _ hs => (by cases hs)⟩
  | append_singleton as a ih =>
    have hrun : (new platform).run (as ++ [a]) = ((new platform).run as).act a :=
      run_append (new platform) as [a]
    rw [hrun, typed_concat, lastPiece_act]
    exact ih.act a

/-- **Whether the suggestions are those for the text.**  After any operations on a query field, what
is suggested are the fragments for the text that was typed last since the query was begun anew, and
none if nothing was typed; only typing computes them.  So they are those for the text, or both are
empty, just if the piece written last has the suggestions of the text typed last. -/
theorem upToDate_run_iff (platform : Platform) (as : List Action) :
    let c := (new platform).run as
    c.suggestions = suggestionsFor c.platform (typed as) ∧
    (c.UpToDate ↔ ∀ s, lastPiece c.platform as = some s →
      Query.suggestions c.platform s = suggestionsFor c.platform (typed as) ∨
        suggestionsFor c.platform (typed as) = [] ∧ c.text = "") := by
  intro c
  have hfollows := follows_run platform as
  refine ⟨hfollows.suggested, ?_⟩
  rw [UpToDate, hfollows.suggested]
  constructor
  · rintro (hempty | htext) s hs
    · exact .inr hempty
    · exact .inl ((hfollows.written s hs).symm.trans htext.symm)
  · intro h
    cases hpiece : lastPiece c.platform as with
    | none =>
      obtain ⟨htyped, hempty⟩ := hfollows.unwritten hpiece
      rw [htyped]
      exact .inl ⟨rfl, hempty⟩
    | some s =>
      rcases h s hpiece with hsame | hempty
      · exact .inr (hsame.symm.trans (hfollows.written s hpiece).symm)
      · exact .inl hempty

/-- A fragment for a port, behind a word that suggests a domain. -/
theorem not_upToDate_select :
    ¬ ∀ (platform : Platform) (as : List Action), ((new platform).run as).UpToDate := by
  intro h
  exact absurd (h .fofa [.setText "dom", .select "port"]) (by decide +kernel)

end Composer

end AssetSearch
