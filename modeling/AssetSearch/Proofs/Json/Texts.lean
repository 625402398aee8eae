/-
# The text of a value is read as the value

Truth values, strings and integers of 64 bits, in arrays and objects, are written so that the text
is read as the same value again: of a string every character comes back, whatever it is, and an
object keeps all its members in their order.  Only the depth is bounded, as it is for every text.

Key definitions: `Json.Legible`, `Json.Lexes` (the tokens of a text, whatever follows it),
`Json.Reads` (what tokens are read as, wherever they stand).  Key statements:
`Lexer.run_escapedChar`, `lexes_stringText`, `lexes_integer`, `Legible.spelled`,
`Legible.parse?_bytes`.
-/
import Mathlib.Data.List.Basic
import AssetSearch.Json.Printer
import AssetSearch.Proofs.Json.Naturals
import AssetSearch.Proofs.Json.Words

namespace AssetSearch.Json

/-! ## Bytes of characters -/

/-- The bytes of some characters. -/
def encoded (s : List Char) : List UInt8 :=
  s.flatMap String.utf8EncodeChar

@[simp] theorem encoded_nil : encoded [] = [] := rfl

@[simp] theorem encoded_append (s t : List Char) : encoded (s ++ t) = encoded s ++ encoded t :=
  List.flatMap_append

theorem encoded_cons (c : Char) (s : List Char) :
    encoded (c :: s) = String.utf8EncodeChar c ++ encoded s :=
  List.flatMap_cons

theorem bytesOf_ofList (s : List Char) : bytesOf (String.ofList s) = encoded s := by
  rw [bytesOf, String.toUTF8_eq_toByteArray, String.toByteArray_ofList]
  exact List.toList_data_toByteArray

/-- The bytes of some characters spell just these. -/
theorem fromUTF8?_encoded (s : List Char) :
    String.fromUTF8? (ByteArray.mk (encoded s).toArray) = some (String.ofList s) := by
  have harray : ByteArray.mk (encoded s).toArray = (String.ofList s).toByteArray := by
    rw [String.toByteArray_ofList]
    exact ByteArray.ext List.data_toByteArray.symm
  rw [harray, String.fromUTF8?, dif_pos (String.ofList s).isValidUTF8]
  rfl

theorem toNat_charOfByte (b : UInt8) : (charOfByte b).toNat = b.toNat := by
  have hb := UInt8.toNat_lt b
  have hvalid : b.toNat.isValidChar := Or.inl (by omega)
  rw [charOfByte, Char.ofNat, dif_pos hvalid]
  rfl

/-- A character of one byte is the character of this byte. -/
theorem utf8EncodeChar_of_lt {c : Char} (h : c.toNat < 128) :
    String.utf8EncodeChar c = [UInt8.ofNat c.toNat] := by
  exact if_pos (Nat.le_of_lt_succ h)

theorem charOfByte_of_lt {c : Char} (h : c.toNat < 128) : charOfByte (UInt8.ofNat c.toNat) = c := by
  apply Char.toNat_inj.mp
  rw [toNat_charOfByte, UInt8.toNat_ofNat']
  omega

/-- The bytes of every other character are large. -/
theorem le_of_mem_utf8EncodeChar {c : Char} (h : 128 ≤ c.toNat) {b : UInt8}
    (hb : b ∈ String.utf8EncodeChar c) : 128 ≤ b.toNat := by
  have hv : c.val.toNat = c.toNat := rfl
  simp only [String.utf8EncodeChar, hv] at hb
  split at hb
  · omega
  -- two, three or four bytes, each with a mark of at least 128
  · split at hb
    · simp only [List.mem_cons, List.not_mem_nil, or_false] at hb
      rcases hb with rfl | rfl <;> rw [UInt8.toNat_ofNat'] <;> omega
    · split at hb
      · simp only [List.mem_cons, List.not_mem_nil, or_false] at hb
        rcases hb with rfl | rfl | rfl <;> rw [UInt8.toNat_ofNat'] <;> omega
      · simp only [List.mem_cons, List.not_mem_nil, or_false] at hb
        rcases hb with rfl | rfl | rfl | rfl <;> rw [UInt8.toNat_ofNat'] <;> omega

theorem isPlain_of_le {c : Char} (h : 128 ≤ c.toNat) : isPlain c = true := by
  have hquote : c ≠ '"' := by rintro rfl; exact absurd h (by decide)
  have hbackslash : c ≠ '\\' := by rintro rfl; exact absurd h (by decide)
  have hspace : ' ' ≤ c := Nat.le_trans (by decide : ' '.toNat ≤ 128) h
  simp [isPlain, hquote, hbackslash, hspace]

/-- The bytes of a character that stands for itself do so, too. -/
theorem isPlain_of_mem_utf8EncodeChar {c : Char} (h : isPlain c = true) {b : UInt8}
    (hb : b ∈ String.utf8EncodeChar c) : isPlain (charOfByte b) = true := by
  by_cases hc : c.toNat < 128
  · rw [utf8EncodeChar_of_lt hc, List.mem_singleton] at hb
    rwa [hb, charOfByte_of_lt hc]
  · apply isPlain_of_le
    rw [toNat_charOfByte]
    exact le_of_mem_utf8EncodeChar (Nat.le_of_not_lt hc) hb

/-! ## Strings -/

/-- A string of which these characters have been read. -/
def Partial.of (s : List Char) : Partial :=
  ⟨(encoded s).reverse, true, none⟩

theorem Partial.of_concat (s : List Char) (c : Char) : of (s ++ [c]) = (of s).pushChar c := by
  simp only [of, pushChar, encoded_append, encoded_cons, encoded_nil, List.append_nil,
    List.reverse_append]

theorem Partial.finish_of (s : List Char) : (of s).finish = some (String.ofList s) := by
  show String.fromUTF8? (ByteArray.mk (encoded s).reverse.reverse.toArray) = _
  rw [List.reverse_reverse, fromUTF8?_encoded]

namespace Lexer

theorem run_of_step {l l' : Lexer} {b : UInt8} {ts : List Token} (h : l.step b = some (l', ts))
    (done : List Token) (rest : List UInt8) :
    l.run done (b :: rest) = l'.run (ts ++ done) rest := by
  rw [run, h]

/-- Bytes that stand for themselves are added to the string. -/
theorem run_plain {bs : List UInt8} (hbs : ∀ b ∈ bs, isPlain (charOfByte b) = true) (p : Partial)
    (hp : p.surrogate = none) (done : List Token) (rest : List UInt8) :
    (string p).run done (bs ++ rest)
      = (string { p with bytes := bs.reverse ++ p.bytes }).run done rest := by
  induction bs generalizing p with
  | nil => rfl
  | cons b bs ih =>
    obtain ⟨hb, hbs⟩ := List.forall_mem_cons.1 hbs
    simp only [isPlain, Bool.and_eq_true, decide_eq_true_eq] at hb
    obtain ⟨⟨hquote, hbackslash⟩, hspace⟩ := hb
    have hpush : p.push b = { p with bytes := b :: p.bytes } := by
      simp only [Partial.push, Partial.settle, hp]
    have hstep : (string p).step b = some (string { p with bytes := b :: p.bytes }, []) := by
      simp only [step, if_neg hquote, if_neg hbackslash, if_neg (Char.not_lt.2 hspace), hpush]
    rw [List.cons_append, run_of_step hstep, List.nil_append, List.reverse_cons, List.append_assoc]
    exact ih hbs { p with bytes := b :: p.bytes } hp

/-- A short escape adds its character to the string. -/
theorem run_shortEscape {c e : Char} {b : UInt8} (he : e.toNat < 128) (hu : e ≠ 'u')
    (hb : shortEscape? e = some b) (hc : String.utf8EncodeChar c = [b]) (s : List Char)
    (done : List Token) (rest : List UInt8) :
    (string (.of s)).run done (encoded ['\\', e] ++ rest)
      = (string (.of (s ++ [c]))).run done rest := by
  have hopen : (string (.of s)).step 0x5C = some (escape (.of s), []) := rfl
  have hclose : (escape (.of s)).step (UInt8.ofNat e.toNat)
      = some (string (.of (s ++ [c])), []) := by
    simp only [step, charOfByte_of_lt he, if_neg hu, hb, Option.map_some, Partial.of_concat,
      Partial.pushChar, hc]
    rfl
  rw [encoded_cons, encoded_cons, encoded_nil, utf8EncodeChar_of_lt he]
  show (string (.of s)).run done (0x5C :: UInt8.ofNat e.toNat :: rest) = _
  rw [run_of_step hopen, run_of_step hclose]
  rfl

theorem hexDigit?_hexChar : ∀ n < 16, hexDigit? (hexChar n) = some n ∧ (hexChar n).toNat < 128 := by
  decide

/-- The escape of a control character adds it to the string. -/
theorem run_unit {c : Char} (h : c.toNat < 32) (s : List Char) (done : List Token)
    (rest : List UInt8) :
    (string (.of s)).run done
        (encoded ['\\', 'u', '0', '0', hexChar (c.toNat / 16), hexChar (c.toNat % 16)] ++ rest)
      = (string (.of (s ++ [c]))).run done rest := by
  -- the first two digits are always zeros, so that no surrogate is met
  obtain ⟨hhigh, hhigh'⟩ := hexDigit?_hexChar (c.toNat / 16) (by omega)
  obtain ⟨hlow, hlow'⟩ := hexDigit?_hexChar (c.toNat % 16) (by omega)
  have hvalue : 16 * (c.toNat / 16) + c.toNat % 16 = c.toNat := Nat.div_add_mod _ _
  have hsecond : (unit (.of s) 1 0).step (UInt8.ofNat (hexChar (c.toNat / 16)).toNat)
      = some (unit (.of s) 0 (c.toNat / 16), []) := by
    simp only [step, charOfByte_of_lt hhigh', hhigh, Nat.mul_zero, Nat.zero_add]
  have hlast : (unit (.of s) 0 (c.toNat / 16)).step (UInt8.ofNat (hexChar (c.toNat % 16)).toNat)
      = some (string (.of (s ++ [c])), []) := by
    have hunit : (Partial.of s).pushUnit c.toNat = .of (s ++ [c]) := by
      rw [Partial.of_concat]
      show (if _ then _ else if _ then _ else _) = _
      rw [if_neg (by omega), if_neg (by omega), Char.ofNat_toNat]
    simp only [step, charOfByte_of_lt hlow', hlow, hvalue, hunit]
  simp only [encoded_cons, encoded_nil, utf8EncodeChar_of_lt hhigh', utf8EncodeChar_of_lt hlow']
  show (unit (.of s) 1 0).run done (_ :: _ :: rest) = _
  rw [run_of_step hsecond, run_of_step hlast]
  rfl

/-- **Every character is read back**, however it is written. -/
theorem run_escapedChar (c : Char) (s : List Char) (done : List Token) (rest : List UInt8) :
    (string (.of s)).run done (encoded (escapedChar c) ++ rest)
      = (string (.of (s ++ [c]))).run done rest := by
  unfold escapedChar
  -- the quote, the backslash and five control characters have short escapes
  iterate 7
    split
    · next h => exact run_shortEscape (by decide) (by decide) rfl (h ▸ rfl) s done rest
  split
  · next h => exact run_unit h s done rest
  · next hquote hbackslash _ _ _ _ _ hspace =>
    have hplain : isPlain c = true := by
      simp [isPlain, hquote, hbackslash, Char.not_lt.1 hspace]
    rw [encoded_cons, encoded_nil, List.append_nil,
      run_plain (fun b hb => isPlain_of_mem_utf8EncodeChar hplain hb) _ rfl, Partial.of_concat]
    rfl

theorem run_escaped (s t : List Char) (done : List Token) (rest : List UInt8) :
    (string (.of s)).run done (encoded (escaped t) ++ rest)
      = (string (.of (s ++ t))).run done rest := by
  rw [escaped_eq]
  induction t generalizing s with
  | nil => rw [List.append_nil]; rfl
  | cons c t ih =>
    rw [List.flatMap_cons, encoded_append, List.append_assoc, run_escapedChar, ih,
      List.append_assoc]
    rfl

end Lexer

/-! ## Texts as tokens -/

/-- Nothing follows, or a structural character. -/
def Bounded (rest : List UInt8) : Prop :=
  ∀ b ∈ rest.head?, (structural? (charOfByte b)).isSome = true

/-- A text consists of these tokens wherever it stands in front of a boundary. -/
def Lexes (s : List Char) (ts : List Token) : Prop :=
  ∀ done rest, Bounded rest →
    Lexer.between.run done (encoded s ++ rest) = Lexer.between.run (ts.reverse ++ done) rest

theorem bounded_nil : Bounded [] :=
  fun _ hb => nomatch hb

/-- A structural character is a byte, and neither white space nor a quote. -/
theorem structural?_eq_some {c : Char} {t : Token} (h : structural? c = some t) :
    c.toNat < 128 ∧ c ≠ '"' ∧ isSpace c = false := by
  unfold structural? at h
  split at h
  all_goals first | cases h; done | exact ⟨by decide, by decide, by decide⟩

namespace Lexer

/-- The automaton is not inside a string, and has seen these characters of a scalar, in reverse. -/
def Outside (l : Lexer) (seen : List Char) : Prop :=
  ∀ b, l.step b = l.outside seen (charOfByte b)

theorem outside_between : Outside between [] :=
  fun _ => rfl

theorem outside_scalar (seen : List Char) : Outside (scalar seen) seen :=
  fun _ => rfl

theorem Outside.step_structural {l : Lexer} {seen : List Char} {c : Char} {t : Token}
    (hl : l.Outside seen) {b : UInt8} (hb : charOfByte b = c) (h : structural? c = some t) :
    l.step b = l.finish?.map fun ts => (between, t :: ts) := by
  obtain ⟨-, hquote, hspace⟩ := structural?_eq_some h
  rw [hl, hb]
  simp only [outside, if_neg hquote, hspace, h, Bool.false_eq_true, if_false]

end Lexer

theorem encoded_structural {c : Char} {t : Token} (h : structural? c = some t) :
    encoded [c] = [UInt8.ofNat c.toNat] := by
  rw [encoded_cons, encoded_nil, List.append_nil, utf8EncodeChar_of_lt (structural?_eq_some h).1]

theorem bounded_structural {c : Char} {t : Token} (h : structural? c = some t) (rest : List UInt8) :
    Bounded (encoded [c] ++ rest) := by
  rw [encoded_structural h]
  intro b hb
  obtain rfl : UInt8.ofNat c.toNat = b := by simpa using hb
  rw [charOfByte_of_lt (structural?_eq_some h).1, h]
  rfl

namespace Lexes

variable {s s' : List Char} {ts ts' : List Token} {c : Char} {t : Token}

theorem nil : Lexes [] [] :=
  fun _ _ _ => rfl

/-- A structural character stands between two texts. -/
theorem append (h : Lexes s ts) (hc : structural? c = some t) (h' : Lexes s' ts') :
    Lexes (s ++ c :: s') (ts ++ t :: ts') := by
  intro done rest hrest
  have hstep : Lexer.between.step (UInt8.ofNat c.toNat) = some (.between, [t]) :=
    Lexer.outside_between.step_structural (charOfByte_of_lt (structural?_eq_some hc).1) hc
  have hmark (done : List Token) : Lexer.between.run done (encoded [c] ++ (encoded s' ++ rest))
      = Lexer.between.run (ts'.reverse ++ t :: done) rest := by
    rw [encoded_structural hc, List.singleton_append, Lexer.run_of_step hstep]
    exact h' _ rest hrest
  calc Lexer.between.run done (encoded (s ++ c :: s') ++ rest)
      = Lexer.between.run done (encoded s ++ (encoded [c] ++ (encoded s' ++ rest))) := by
        rw [← List.singleton_append, encoded_append, encoded_append]
        simp only [List.append_assoc]
    _ = Lexer.between.run (ts.reverse ++ done) (encoded [c] ++ (encoded s' ++ rest)) :=
        h done _ (bounded_structural hc _)
    _ = Lexer.between.run ((ts ++ t :: ts').reverse ++ done) rest := by
        rw [hmark]
        simp

/-- A text between two structural characters. -/
theorem enclosed {a : Char} {u : Token} (ha : structural? a = some u) (h : Lexes s ts)
    (hc : structural? c = some t) : Lexes (a :: (s ++ [c])) (u :: (ts ++ [t])) :=
  nil.append ha (h.append hc nil)

end Lexes

/-- **A string is one token**, whatever its characters are. -/
theorem lexes_stringText (s : String) : Lexes (stringText s) [.string (some s)] := by
  intro done rest hrest
  have hopen : Lexer.between.step 0x22 = some (.string (.of []), []) := rfl
  have hclose : (Lexer.string (.of s.toList)).step 0x22
      = some (.between, [.string (some s)]) := by
    have hfinish := Partial.finish_of s.toList
    rw [String.ofList_toList] at hfinish
    show some (Lexer.between, [Token.string (Partial.of s.toList).finish]) = _
    rw [hfinish]
  rw [stringText, encoded_cons, encoded_append, List.append_assoc, List.append_assoc]
  show Lexer.between.run done (0x22 :: (encoded (escaped s.toList) ++ 0x22 :: rest)) = _
  rw [Lexer.run_of_step hopen, Lexer.run_escaped, List.nil_append, List.nil_append,
    Lexer.run_of_step hclose]
  rfl

/-! ## Scalars -/

/-- Outside of strings the character goes into a scalar. -/
def isScalar (c : Char) : Bool :=
  c.toNat < 128 && c ≠ '"' && !isSpace c && (structural? c).isNone

namespace Lexer

theorem Outside.step_scalar {l : Lexer} {seen : List Char} (hl : l.Outside seen) {c : Char}
    (h : isScalar c = true) : l.step (UInt8.ofNat c.toNat) = some (scalar (c :: seen), []) := by
  simp only [isScalar, Bool.and_eq_true, decide_eq_true_eq, Bool.not_eq_true',
    Option.isNone_iff_eq_none] at h
  obtain ⟨⟨⟨hbyte, hquote⟩, hspace⟩, hother⟩ := h
  rw [hl, charOfByte_of_lt hbyte]
  simp only [outside, if_neg hquote, hspace, hother, Bool.false_eq_true, if_false]

theorem encoded_cons_scalar {c : Char} (h : isScalar c = true) (s : List Char) :
    encoded (c :: s) = UInt8.ofNat c.toNat :: encoded s := by
  simp only [isScalar, Bool.and_eq_true, decide_eq_true_eq] at h
  rw [encoded_cons, utf8EncodeChar_of_lt h.1.1.1, List.singleton_append]

/-- The characters of a scalar are collected. -/
theorem run_scalar {s : List Char} (hs : ∀ c ∈ s, isScalar c = true) (seen : List Char)
    (done : List Token) (rest : List UInt8) :
    (scalar seen).run done (encoded s ++ rest) = (scalar (s.reverse ++ seen)).run done rest := by
  induction s generalizing seen with
  | nil => rfl
  | cons c s ih =>
    obtain ⟨hc, hs⟩ := List.forall_mem_cons.1 hs
    rw [encoded_cons_scalar hc, List.cons_append,
      run_of_step ((outside_scalar seen).step_scalar hc), List.nil_append, ih hs,
      List.reverse_cons, List.append_assoc]
    rfl

/-- A scalar ends at a boundary. -/
theorem run_boundary {seen : List Char} {t : Token} (ht : scalar? seen.reverse = some t)
    (done : List Token) {rest : List UInt8} (hrest : Bounded rest) :
    (scalar seen).run done rest = between.run (t :: done) rest := by
  cases rest with
  | nil => simp only [run, finish?, ht, Option.map_some, List.nil_append, List.singleton_append]
  | cons b rest =>
    obtain ⟨u, hu⟩ := Option.isSome_iff_exists.1 (hrest b rfl)
    have hstep : (scalar seen).step b = some (between, [u, t]) := by
      rw [(outside_scalar seen).step_structural rfl hu, finish?, ht]
      rfl
    have hbetween : between.step b = some (between, [u]) :=
      outside_between.step_structural rfl hu
    rw [run_of_step hstep, run_of_step hbetween]
    rfl

end Lexer

/-- The characters of a scalar make one token. -/
theorem lexes_scalar {s : List Char} {t : Token} (hne : s ≠ []) (hs : s.all isScalar = true)
    (ht : scalar? s = some t) : Lexes s [t] := by
  intro done rest hrest
  obtain ⟨c, s, rfl⟩ := List.exists_cons_of_ne_nil hne
  obtain ⟨hc, htail⟩ := List.forall_mem_cons.1 (List.all_eq_true.1 hs)
  rw [Lexer.encoded_cons_scalar hc, List.cons_append,
    Lexer.run_of_step (Lexer.outside_between.step_scalar hc), List.nil_append,
    Lexer.run_scalar htail, Lexer.run_boundary _ done hrest]
  · rfl
  · simpa using ht

theorem all_isScalar_toDigits (n : Nat) : (Nat.toDigits 10 n).all isScalar = true := by
  obtain ⟨ds, hplain, rfl⟩ := Number.exists_plain n
  rw [← hplain.map_digitChar, List.all_eq_true]
  intro c hc
  obtain ⟨d, hd, rfl⟩ := List.mem_map.1 hc
  have hall : ∀ d < 10, isScalar (Nat.digitChar d) = true := by decide
  exact hall d (hplain.small d hd)

/-- The digits of a natural number behind a minus sign. -/
theorem scalar?_negative {n : Nat} (hpos : n ≠ 0) (hn : n ≤ UInt64.size / 2) :
    scalar? ('-' :: Nat.toDigits 10 n) = some (.number (some (.integer (-n)))) := by
  obtain ⟨ds, hplain, rfl⟩ := Number.exists_plain n
  have hliteral : Number.literal? ('-' :: Nat.toDigits 10 (Number.ofDigits ds))
      = some ⟨true, ds, none, none⟩ :=
    Number.unsigned?_eq_whole_iff.2 ⟨hplain, hplain.map_digitChar.symm⟩
  have habsorb : Number.absorb 0 ds = (Number.ofDigits ds, []) :=
    (Number.absorb_eq_all_iff (Nat.zero_le _)).2 ⟨rfl, hn.trans (by decide)⟩
  have hvalue : Number.Literal.value? ⟨true, ds, none, none⟩
      = some (.integer (-(Number.ofDigits ds : Nat))) := by
    simp only [Number.Literal.value?, habsorb, and_self, if_true, Number.ofMagnitude]
    rw [if_neg (by omega)]
  rw [scalar?, if_neg (by simp), if_neg (by simp), if_neg (by simp), hliteral, Option.map_some,
    hvalue]

/-- **An integer of 64 bits is one token.** -/
theorem lexes_integer {i : Int} (h : (Number.integer i).InWord) :
    Lexes (Number.text (.integer i)) [.number (some (.integer i))] := by
  obtain ⟨hlow, hhigh⟩ := h
  cases i with
  | ofNat n =>
    have hdigits : scalar? (Nat.toDigits 10 n) = some (.number (some (.integer n))) :=
      scalar?_eq_natural_iff.2 ⟨rfl, by simpa using hhigh⟩
    exact lexes_scalar Nat.toDigits_ne_nil (all_isScalar_toDigits n) hdigits
  | negSucc n =>
    have hdigits := scalar?_negative (Nat.succ_ne_zero n) (by omega)
    exact lexes_scalar (List.cons_ne_nil _ _) (all_isScalar_toDigits (n + 1)) hdigits

/-! ## Tokens as values -/

/-- Tokens are read as this value wherever a value may stand that nests `n` containers. -/
def Reads (n : Nat) (ts : List Token) (j : Json) : Prop :=
  ∀ stack rest, stack.length + n ≤ maxDepth →
    (Reading.value stack).run (ts ++ rest) = (Reading.put stack j).run rest

/-- Tokens are read as the further items of an array. -/
def ReadsItems (n : Nat) (ts : List Token) (items : List Json) : Prop :=
  ∀ before stack rest, stack.length + (n + 1) ≤ maxDepth →
    (Reading.value (.array before :: stack)).run (ts ++ rest)
      = (Reading.next (.array (items.reverse ++ before) :: stack)).run rest

/-- Tokens are read as the further members of an object, of which the last one has this key. -/
def ReadsMembers (n : Nat) (ts : List Token) (ms : List (String × Json)) (last : String) : Prop :=
  ∀ before key stack rest, stack.length + (n + 1) ≤ maxDepth →
    (Reading.key (.object before true key :: stack)).run (ts ++ rest)
      = (Reading.next (.object (ms.reverse ++ before) true last :: stack)).run rest

theorem reads_leaf {t : Token} {j : Json}
    (h : ∀ stack, Reading.startValue stack t = some (Reading.put stack j)) (n : Nat) :
    Reads n [t] j := by
  intro stack rest _
  rw [List.singleton_append, Reading.run, Reading.step, h]

namespace Reading

theorem run_of_step {r r' : Reading} {t : Token} (h : r.step t = some r') (rest : List Token) :
    r.run (t :: rest) = r'.run rest := by
  rw [run, h]

/-- What is read as a value is not the end of an array. -/
theorem run_firstItem {stack : List Open} {ts : List Token} {r : Reading}
    (h : (value stack).run ts = some r) (hr : r ≠ value stack) (rest : List Token) :
    (firstItem stack).run (ts ++ rest) = (value stack).run (ts ++ rest) := by
  cases ts with
  | nil => exact absurd (Option.some.inj h).symm hr
  | cons t ts =>
    -- a bracket cannot start a value
    have ht : t ≠ .closeArray := by
      rintro rfl
      cases h
    simp only [List.cons_append, run, step, if_neg ht]

/-- What is read as a member is not the end of an object. -/
theorem run_firstKey {stack : List Open} {ts : List Token} {r : Reading}
    (h : (key stack).run ts = some r) (hr : r ≠ key stack) (rest : List Token) :
    (firstKey stack).run (ts ++ rest) = (key stack).run (ts ++ rest) := by
  cases ts with
  | nil => exact absurd (Option.some.inj h).symm hr
  | cons t ts =>
    have ht : t ≠ .closeObject := by
      rintro rfl
      cases h
    simp only [List.cons_append, run, step, if_neg ht]

end Reading

variable {n : Nat} {ts ts' : List Token}

/-! ## Arrays -/

theorem Reads.item {j : Json} (h : Reads n ts j) : ReadsItems n ts [j] := by
  intro before stack rest hdepth
  exact h (.array before :: stack) rest (by rw [List.length_cons]; omega)

theorem Reads.cons_item {j : Json} {items : List Json} (h : Reads n ts j)
    (h' : ReadsItems n ts' items) : ReadsItems n (ts ++ .comma :: ts') (j :: items) := by
  intro before stack rest hdepth
  have hcomma : (Reading.next (.array (j :: before) :: stack)).step .comma
      = some (.value (.array (j :: before) :: stack)) := rfl
  rw [List.append_assoc, h.item before stack _ hdepth, List.cons_append]
  show (Reading.next (.array (j :: before) :: stack)).run _ = _
  rw [Reading.run_of_step hcomma, h' _ stack rest hdepth, List.reverse_cons, List.append_assoc]
  rfl

theorem Reading.shut_array {items : List Json} {stack : List Open}
    (h : stack.length + 1 ≤ maxDepth) :
    shut (.array items :: stack) = some (put stack (.array items.reverse)) := by
  rw [shut, if_pos (by rwa [List.length_cons])]
  rfl

theorem reads_nil_array : Reads (n + 1) [.openArray, .closeArray] (array []) := by
  intro stack rest hdepth
  have hopen : (Reading.value stack).step .openArray = some (.firstItem (.array [] :: stack)) := rfl
  have hclose : (Reading.firstItem (.array [] :: stack)).step .closeArray
      = some (Reading.put stack (array [])) := Reading.shut_array (by omega)
  rw [List.cons_append, Reading.run_of_step hopen, List.singleton_append,
    Reading.run_of_step hclose]

/-- Items between brackets are an array. -/
theorem ReadsItems.array {items : List Json} (h : ReadsItems n ts items) :
    Reads (n + 1) (.openArray :: (ts ++ [.closeArray])) (array items) := by
  intro stack rest hdepth
  have hopen : (Reading.value stack).step .openArray = some (.firstItem (.array [] :: stack)) := rfl
  have hclose : (Reading.next (.array (items.reverse ++ []) :: stack)).step .closeArray
      = some (Reading.put stack (Json.array items)) := by
    show Reading.shut (.array (items.reverse ++ []) :: stack) = _
    rw [Reading.shut_array (by omega), List.append_nil, List.reverse_reverse]
  have hitems := h [] stack [] hdepth
  rw [List.append_nil] at hitems
  rw [List.cons_append, Reading.run_of_step hopen, List.append_assoc,
    Reading.run_firstItem hitems nofun, h [] stack _ hdepth, List.singleton_append,
    Reading.run_of_step hclose]

/-! ## Objects -/

theorem Reads.member {j : Json} (h : Reads n ts j) (key : String) :
    ReadsMembers n (.string (some key) :: .colon :: ts) [(key, j)] key := by
  intro before old stack rest hdepth
  have hkey : (Reading.key (.object before true old :: stack)).step (.string (some key))
      = some (.colon (.object before true key :: stack)) := rfl
  have hcolon : (Reading.colon (.object before true key :: stack)).step .colon
      = some (.value (.object before true key :: stack)) := rfl
  rw [List.cons_append, Reading.run_of_step hkey, List.cons_append, Reading.run_of_step hcolon]
  exact h (.object before true key :: stack) rest (by rw [List.length_cons]; omega)

theorem Reads.cons_member {j : Json} {ms : List (String × Json)} {last : String}
    (h : Reads n ts j) (key : String) (h' : ReadsMembers n ts' ms last) :
    ReadsMembers n (.string (some key) :: .colon :: (ts ++ .comma :: ts')) ((key, j) :: ms)
      last := by
  intro before old stack rest hdepth
  have hcomma : (Reading.next (.object ((key, j) :: before) true key :: stack)).step .comma
      = some (.key (.object ((key, j) :: before) true key :: stack)) := rfl
  have hmember := h.member key before old stack (.comma :: ts' ++ rest) hdepth
  simp only [List.cons_append, List.append_assoc] at hmember ⊢
  rw [hmember]
  show (Reading.next (.object ((key, j) :: before) true key :: stack)).run _ = _
  rw [Reading.run_of_step hcomma, h' _ key stack rest hdepth, List.reverse_cons, List.append_assoc]
  rfl

theorem Reading.shut_object {ms : List (String × Json)} {key : String} {stack : List Open}
    (h : stack.length + 1 ≤ maxDepth) :
    shut (.object ms true key :: stack) = some (put stack (.object ms.reverse)) := by
  rw [shut, if_pos (by rwa [List.length_cons])]
  rfl

theorem reads_nil_object : Reads (n + 1) [.openObject, .closeObject] (object []) := by
  intro stack rest hdepth
  have hopen : (Reading.value stack).step .openObject
      = some (.firstKey (.object [] true "" :: stack)) := rfl
  have hclose : (Reading.firstKey (.object [] true "" :: stack)).step .closeObject
      = some (Reading.put stack (object [])) := Reading.shut_object (by omega)
  rw [List.cons_append, Reading.run_of_step hopen, List.singleton_append,
    Reading.run_of_step hclose]

/-- Members between braces are an object. -/
theorem ReadsMembers.object {ms : List (String × Json)} {last : String}
    (h : ReadsMembers n ts ms last) :
    Reads (n + 1) (.openObject :: (ts ++ [.closeObject])) (object ms) := by
  intro stack rest hdepth
  have hopen : (Reading.value stack).step .openObject
      = some (.firstKey (.object [] true "" :: stack)) := rfl
  have hclose : (Reading.next (.object (ms.reverse ++ []) true last :: stack)).step .closeObject
      = some (Reading.put stack (Json.object ms)) := by
    show Reading.shut (.object (ms.reverse ++ []) true last :: stack) = _
    rw [Reading.shut_object (by omega), List.append_nil, List.reverse_reverse]
  have hmembers := h [] "" stack [] hdepth
  rw [List.append_nil] at hmembers
  rw [List.cons_append, Reading.run_of_step hopen, List.append_assoc,
    Reading.run_firstKey hmembers nofun, h [] "" stack _ hdepth, List.singleton_append,
    Reading.run_of_step hclose]

/-! ## Values -/

/-- The value can be read from its text: its integers are of 64 bits, and it nests at most `n`
containers. -/
inductive Legible : Nat → Json → Prop where
  | null {n : Nat} : Legible n null
  | bool {n : Nat} (b : Bool) : Legible n (bool b)
  | integer {n : Nat} {i : Int} (h : (Number.integer i).InWord) : Legible n (ofInt i)
  | string {n : Nat} (s : String) : Legible n (string s)
  | array {n : Nat} {items : List Json} (h : ∀ j ∈ items, Legible n j) :
    Legible (n + 1) (array items)
  | object {n : Nat} {ms : List (String × Json)} (h : ∀ m ∈ ms, Legible n m.2) :
    Legible (n + 1) (object ms)

theorem Legible.mono {j : Json} (h : Legible n j) {m : Nat} (hm : n ≤ m) : Legible m j := by
  induction h generalizing m with
  | null => exact .null
  | bool b => exact .bool b
  | integer h => exact .integer h
  | string s => exact .string s
  | array _ ih =>
    obtain ⟨k, rfl⟩ := Nat.exists_eq_add_of_lt (Nat.lt_of_succ_le hm)
    exact .array fun j hj => ih j hj (by omega)
  | object _ ih =>
    obtain ⟨k, rfl⟩ := Nat.exists_eq_add_of_lt (Nat.lt_of_succ_le hm)
    exact .object fun member hmember => ih member hmember (by omega)

/-- The text of a value consists of tokens that are read as the value. -/
def Spelled (n : Nat) (j : Json) : Prop :=
  ∃ ts, Lexes j.chars ts ∧ Reads n ts j

theorem spelled_items {items : List Json} (h : ∀ j ∈ items, Spelled n j) (hne : items ≠ []) :
    ∃ ts, Lexes (itemChars items) ts ∧ ReadsItems n ts items := by
  induction items with
  | nil => exact absurd rfl hne
  | cons j items ih =>
    obtain ⟨⟨ts, hlexes, hreads⟩, hrest⟩ := List.forall_mem_cons.1 h
    cases items with
    | nil => exact ⟨ts, hlexes, hreads.item⟩
    | cons k items =>
      obtain ⟨ts', hlexes', hreads'⟩ := ih hrest (List.cons_ne_nil k items)
      exact ⟨_, hlexes.append rfl hlexes', hreads.cons_item hreads'⟩

theorem spelled_members {ms : List (String × Json)} (h : ∀ m ∈ ms, Spelled n m.2) (hne : ms ≠ []) :
    ∃ ts last, Lexes (memberChars ms) ts ∧ ReadsMembers n ts ms last := by
  induction ms with
  | nil => exact absurd rfl hne
  | cons m ms ih =>
    obtain ⟨key, j⟩ := m
    obtain ⟨⟨ts, hlexes, hreads⟩, hrest⟩ := List.forall_mem_cons.1 h
    have hkey := lexes_stringText key
    cases ms with
    | nil => exact ⟨_, key, hkey.append rfl hlexes, hreads.member key⟩
    | cons m ms =>
      obtain ⟨ts', last, hlexes', hreads'⟩ := ih hrest (List.cons_ne_nil m ms)
      exact ⟨_, last, hkey.append rfl (hlexes.append rfl hlexes'), hreads.cons_member key hreads'⟩

/-- A legible value is spelled by its text. -/
theorem Legible.spelled {j : Json} (h : Legible n j) : Spelled n j := by
  induction h with
  | null => exact ⟨[.null], lexes_scalar (by decide) (by decide) rfl, reads_leaf (fun _ => rfl) _⟩
  | bool b =>
    cases b with
    | true =>
      exact ⟨[.bool true], lexes_scalar (by decide) (by decide) rfl, reads_leaf (fun _ => rfl) _⟩
    | false =>
      exact ⟨[.bool false], lexes_scalar (by decide) (by decide) rfl, reads_leaf (fun _ => rfl) _⟩
  | integer h => exact ⟨_, lexes_integer h, reads_leaf (fun _ => rfl) _⟩
  | string s => exact ⟨_, lexes_stringText s, reads_leaf (fun _ => rfl) _⟩
  | @array n items _ ih =>
    by_cases hne : items = []
    · subst hne
      exact ⟨_, Lexes.nil.enclosed rfl rfl, reads_nil_array⟩
    · obtain ⟨ts, hlexes, hreads⟩ := spelled_items ih hne
      exact ⟨_, hlexes.enclosed rfl rfl, hreads.array⟩
  | @object n ms _ ih =>
    by_cases hne : ms = []
    · subst hne
      exact ⟨_, Lexes.nil.enclosed rfl rfl, reads_nil_object⟩
    · obtain ⟨ts, last, hlexes, hreads⟩ := spelled_members ih hne
      exact ⟨_, hlexes.enclosed rfl rfl, hreads.object⟩

/-- **The text of a value is read as the value.** -/
theorem Legible.parse?_bytes {j : Json} (h : Legible n j) (hn : n ≤ maxDepth) :
    parse? j.bytes = some j := by
  obtain ⟨ts, hlexes, hreads⟩ := h.spelled
  have hscan : Token.scan? j.bytes = some ts := by
    have hrun := hlexes [] [] bounded_nil
    rw [List.append_nil, List.append_nil] at hrun
    rw [bytes, text, bytesOf_ofList, Token.scan?, hrun]
    simp only [Lexer.run, Lexer.finish?, Option.map_some, List.nil_append, List.reverse_reverse]
  have hread := hreads [] [] (by simpa using hn)
  rw [List.append_nil] at hread
  rw [parse?, hscan]
  dsimp only
  rw [hread]
  rfl

end AssetSearch.Json
