/-
# The integers of a text

An integer that is read from a text is a word of 64 bits, signed or unsigned, wherever in a value it
stands: longer ones become doubles.

Key definitions: `Number.InWord`, `Json.InWords`.  Key statements: `Number.inWord_of_value?`,
`Json.Lexer.inWord_of_step`, `Json.Reading.InWords.step`, `Json.inWords_of_parse?`.
-/
import AssetSearch.Json.Parser

namespace AssetSearch

/-! ## Numbers -/

namespace Number

/-- An integer is a word of 64 bits, signed or unsigned. -/
def InWord : Number → Prop
  | integer n => -(UInt64.size / 2 : Nat) ≤ n ∧ n ≤ maxWord
  | double _ => True

/-- Digits that are taken into a word stay in it. -/
theorem absorb_le {n : Nat} (hn : n ≤ maxWord) (ds : List Nat) : (absorb n ds).1 ≤ maxWord := by
  induction ds generalizing n with
  | nil => exact hn
  | cons d ds ih =>
    rw [absorb]
    split
    · next h => exact ih h
    · exact hn

theorem inWord_ofMagnitude {n : Nat} (hn : n ≤ maxWord) (negative : Bool) :
    (ofMagnitude negative n).InWord := by
  rw [ofMagnitude]
  cases negative with
  | false =>
    exact ⟨by omega, by omega⟩
  | true =>
    by_cases h : n = 0 ∨ UInt64.size / 2 < n
    · rw [if_pos rfl, if_pos h]
      trivial
    · rw [if_pos rfl, if_neg h]
      exact ⟨by omega, by omega⟩

theorem inWord_of_value? {l : Literal} {x : Number} (h : l.value? = some x) : x.InWord := by
  have hword := absorb_le (Nat.zero_le maxWord) l.whole
  rw [Literal.value?] at h
  generalize absorb 0 l.whole = parts at h hword
  obtain ⟨n, dropped⟩ := parts
  dsimp only at h
  split at h
  · cases h
    exact inWord_ofMagnitude hword l.negative
  · obtain ⟨y, -, rfl⟩ := Option.map_eq_some_iff.1 h
    trivial

end Number

namespace Json

/-! ## Tokens -/

/-- The number of a token is a word if it is an integer. -/
def Token.InWord : Token → Prop
  | number (some n) => n.InWord
  | _ => True

theorem inWord_of_scalar? {s : List Char} {t : Token} (h : scalar? s = some t) : t.InWord := by
  unfold scalar? at h
  split at h
  · cases h
    trivial
  · split at h
    · cases h
      trivial
    · split at h
      · cases h
        trivial
      · obtain ⟨l, -, rfl⟩ := Option.map_eq_some_iff.1 h
        cases hvalue : l.value? with
        | none => trivial
        | some n => exact Number.inWord_of_value? hvalue

theorem inWord_of_structural? {c : Char} {t : Token} (h : structural? c = some t) : t.InWord := by
  unfold structural? at h
  split at h <;> first | (cases h; trivial) | cases h

namespace Lexer

theorem inWord_of_finish? {l : Lexer} {ts : List Token} (h : l.finish? = some ts) :
    ∀ t ∈ ts, t.InWord := by
  cases l with
  | between =>
    cases h
    exact List.forall_mem_nil _
  | scalar seen =>
    obtain ⟨t, ht, rfl⟩ := Option.map_eq_some_iff.1 h
    exact List.forall_mem_singleton.2 (inWord_of_scalar? ht)
  | _ => cases h

theorem inWord_of_outside {l l' : Lexer} {seen : List Char} {c : Char} {ts : List Token}
    (h : l.outside seen c = some (l', ts)) : ∀ t ∈ ts, t.InWord := by
  unfold outside at h
  split at h
  · obtain ⟨ts', hts, heq⟩ := Option.map_eq_some_iff.1 h
    cases heq
    exact inWord_of_finish? hts
  · split at h
    · obtain ⟨ts', hts, heq⟩ := Option.map_eq_some_iff.1 h
      cases heq
      exact inWord_of_finish? hts
    · split at h
      · next t ht =>
        obtain ⟨ts', hts, heq⟩ := Option.map_eq_some_iff.1 h
        cases heq
        exact List.forall_mem_cons.2 ⟨inWord_of_structural? ht, inWord_of_finish? hts⟩
      · cases h
        exact List.forall_mem_nil _

/-- The tokens that one byte completes. -/
theorem inWord_of_step {l l' : Lexer} {b : UInt8} {ts : List Token}
    (h : l.step b = some (l', ts)) : ∀ t ∈ ts, t.InWord := by
  have hnone : ∀ t ∈ ([] : List Token), t.InWord := List.forall_mem_nil _
  cases l with
  | between => exact inWord_of_outside h
  | scalar seen => exact inWord_of_outside h
  | string p =>
    dsimp only [step] at h
    split at h
    · cases h
      exact List.forall_mem_singleton.2 trivial
    · split at h
      · cases h
        exact hnone
      · split at h
        · cases h
        · cases h
          exact hnone
  | escape p =>
    dsimp only [step] at h
    split at h
    · cases h
      exact hnone
    · obtain ⟨e, -, heq⟩ := Option.map_eq_some_iff.1 h
      cases heq
      exact hnone
  | unit p left value =>
    dsimp only [step] at h
    split at h
    · cases h
    · split at h <;> cases h <;> exact hnone

theorem inWord_of_run {l : Lexer} {done ts : List Token} {bytes : List UInt8}
    (hdone : ∀ t ∈ done, t.InWord) (h : l.run done bytes = some ts) : ∀ t ∈ ts, t.InWord := by
  induction bytes generalizing l done with
  | nil =>
    obtain ⟨ts', hts, rfl⟩ := Option.map_eq_some_iff.1 h
    intro t ht
    exact List.forall_mem_append.2 ⟨inWord_of_finish? hts, hdone⟩ t (List.mem_reverse.1 ht)
  | cons b rest ih =>
    rw [run] at h
    split at h
    · cases h
    · next l' ts' hstep =>
      exact ih (List.forall_mem_append.2 ⟨inWord_of_step hstep, hdone⟩) h

end Lexer

/-! ## Values -/

/-- Every integer in a value is a word. -/
inductive InWords : Json → Prop where
  | null : InWords null
  | bool (b : Bool) : InWords (bool b)
  | number {n : Number} (h : n.InWord) : InWords (number n)
  | string (s : String) : InWords (string s)
  | array {items : List Json} (h : ∀ j ∈ items, InWords j) : InWords (array items)
  | object {ms : List (String × Json)} (h : ∀ m ∈ ms, InWords m.2) : InWords (object ms)
  | unreadable : InWords unreadable

/-- Every integer in an open container is a word. -/
def Open.InWords : Open → Prop
  | array items => ∀ j ∈ items, j.InWords
  | object ms _ _ => ∀ m ∈ ms, m.2.InWords

theorem Open.InWords.add {o : Open} {v : Json} (ho : o.InWords) (hv : v.InWords) :
    (o.add v).InWords := by
  cases o with
  | array => exact List.forall_mem_cons.2 ⟨hv, ho⟩
  | object => exact List.forall_mem_cons.2 ⟨hv, ho⟩

theorem Open.InWords.setKey {o : Open} (ho : o.InWords) (key : Option String) :
    (o.setKey key).InWords := by
  cases o <;> cases key <;> exact ho

theorem Open.InWords.close {o : Open} (ho : o.InWords) : o.close.InWords := by
  cases o with
  | array items => exact .array fun j hj => ho j (List.mem_reverse.1 hj)
  | object ms readable key =>
    cases readable with
    | true => exact .object fun m hm => ho m (List.mem_reverse.1 hm)
    | false => exact .unreadable

namespace Reading

/-- Every integer read so far is a word. -/
def InWords : Reading → Prop
  | value stack | firstItem stack | firstKey stack | key stack | colon stack | next stack =>
    ∀ o ∈ stack, o.InWords
  | complete v => v.InWords

theorem inWords_put {stack : List Open} {v : Json} (hstack : ∀ o ∈ stack, o.InWords)
    (hv : v.InWords) : (put stack v).InWords := by
  cases stack with
  | nil => exact hv
  | cons o rest =>
    obtain ⟨ho, hrest⟩ := List.forall_mem_cons.1 hstack
    exact List.forall_mem_cons.2 ⟨ho.add hv, hrest⟩

theorem inWords_of_shut {stack : List Open} {r : Reading} (hstack : ∀ o ∈ stack, o.InWords)
    (h : shut stack = some r) : r.InWords := by
  cases stack with
  | nil => cases h
  | cons o rest =>
    obtain ⟨ho, hrest⟩ := List.forall_mem_cons.1 hstack
    cases h
    refine inWords_put hrest ?_
    split
    · exact ho.close
    · exact .unreadable

theorem inWords_of_startValue {stack : List Open} {t : Token} {r : Reading}
    (hstack : ∀ o ∈ stack, o.InWords) (ht : t.InWord) (h : startValue stack t = some r) :
    r.InWords := by
  unfold startValue at h
  split at h
  · cases h; exact inWords_put hstack .null
  · cases h; exact inWords_put hstack (.bool _)
  · cases h; exact inWords_put hstack (.number ht)
  · cases h; exact inWords_put hstack .unreadable
  · cases h; exact inWords_put hstack (.string _)
  · cases h; exact inWords_put hstack .unreadable
  · cases h; exact List.forall_mem_cons.2 ⟨List.forall_mem_nil _, hstack⟩
  · cases h; exact List.forall_mem_cons.2 ⟨List.forall_mem_nil _, hstack⟩
  · cases h

theorem inWords_of_startKey {stack : List Open} {t : Token} {r : Reading}
    (hstack : ∀ o ∈ stack, o.InWords) (h : startKey stack t = some r) : r.InWords := by
  unfold startKey at h
  split at h
  · cases h
    obtain ⟨ho, hrest⟩ := List.forall_mem_cons.1 hstack
    exact List.forall_mem_cons.2 ⟨ho.setKey _, hrest⟩
  · cases h

/-- One token. -/
theorem InWords.step {r r' : Reading} {t : Token} (hr : r.InWords) (ht : t.InWord)
    (h : r.step t = some r') : r'.InWords := by
  cases r with
  | value stack => exact inWords_of_startValue hr ht h
  | firstItem stack =>
    dsimp only [Reading.step] at h
    split at h
    · exact inWords_of_shut hr h
    · exact inWords_of_startValue hr ht h
  | firstKey stack =>
    dsimp only [Reading.step] at h
    split at h
    · exact inWords_of_shut hr h
    · exact inWords_of_startKey hr h
  | key stack => exact inWords_of_startKey hr h
  | colon stack =>
    dsimp only [Reading.step] at h
    split at h
    · cases h
      exact hr
    · cases h
  | next stack =>
    dsimp only [Reading.step] at h
    split at h
    · cases h
      exact hr
    · exact inWords_of_shut hr h
    · cases h
      exact hr
    · exact inWords_of_shut hr h
    · cases h
  | complete v => cases h

theorem InWords.run {r r' : Reading} {ts : List Token} (hr : r.InWords) (hts : ∀ t ∈ ts, t.InWord)
    (h : r.run ts = some r') : r'.InWords := by
  induction ts generalizing r with
  | nil =>
    cases h
    exact hr
  | cons t rest ih =>
    obtain ⟨ht, hrest⟩ := List.forall_mem_cons.1 hts
    rw [Reading.run] at h
    split at h
    · cases h
    · next r'' hstep => exact ih (hr.step ht hstep) hrest h

end Reading

/-- **Every integer in a value of a text is a word.** -/
theorem inWords_of_parse? {bytes : List UInt8} {j : Json} (h : parse? bytes = some j) :
    j.InWords := by
  unfold parse? at h
  split at h
  · cases h
  · next tokens htokens =>
    have hwords := Lexer.inWord_of_run (List.forall_mem_nil _) htokens
    split at h
    · cases h
    · next r hrun =>
      have hstart : (Reading.value []).InWords := List.forall_mem_nil _
      have hr : r.InWords := hstart.run hwords hrun
      cases r with
      | complete v =>
        cases h
        exact hr
      | _ => cases h

end Json

end AssetSearch
