/-
# The text of a timestamp is read as the timestamp

Every instant that is read from a text is regular: its second lies in the day, and only the last
second of a minute is followed by a leap second.  The text of a regular instant is read as the same
instant.

Key definitions: `Timestamp.Regular`.  Key statements: `Timestamp.regular_of_parse?`,
`Timestamp.Regular.parse?_text`.
-/
import Mathlib.Algebra.Group.Nat.Defs
import AssetSearch.Calendar.Timestamp

namespace AssetSearch

open Text (padded stripStart isBlank)

namespace Timestamp

/-! ## Digits -/

theorem toNat_of_isDigit {c : Char} (h : isDigit c = true) : 48 ≤ c.toNat ∧ c.toNat ≤ 57 := by
  simp only [isDigit, Bool.and_eq_true, decide_eq_true_eq, Char.le_def, UInt32.le_iff_toNat_le] at h
  exact h

theorem isBlank_of_isDigit {c : Char} (h : isDigit c = true) : isBlank c = false := by
  obtain ⟨hlow, hhigh⟩ := toNat_of_isDigit h
  simp only [isBlank, Bool.or_eq_false_iff, Bool.and_eq_false_iff, decide_eq_false_iff_not,
    beq_eq_false_iff_ne]
  omega

theorem ofDigits_eq (s : List Char) : ofDigits s = Nat.ofDigitChars 10 s 0 := by
  rw [Nat.ofDigitChars_eq_foldl, ofDigits]

theorem ofDigits_lt {s : List Char} (h : ∀ c ∈ s, isDigit c = true) :
    ofDigits s < 10 ^ s.length := by
  induction s with
  | nil => decide
  | cons c s ih =>
    obtain ⟨hc, hs⟩ := List.forall_mem_cons.mp h
    have hrest := ih hs
    have hdigit := toNat_of_isDigit hc
    rw [ofDigits_eq] at hrest ⊢
    rw [Nat.ofDigitChars_cons, Nat.ofDigitChars_eq_ofDigitChars_zero, List.length_cons,
      Nat.pow_succ]
    have hzero : '0'.toNat = 48 := rfl
    have hle : 10 ^ s.length * (10 * 0 + (c.toNat - '0'.toNat)) ≤ 10 ^ s.length * 9 :=
      Nat.mul_le_mul_left _ (by omega)
    omega

/-! ## Numbers of a fixed width -/

theorem isDigit_of_mem_padded {width n : Nat} {c : Char} (h : c ∈ padded width n) :
    isDigit c = true := by
  rcases List.mem_append.mp h with h | h
  · rw [List.eq_of_mem_replicate h]
    rfl
  · have hdigit := Nat.isDigit_of_mem_toDigits (by decide) (by decide) h
    simpa [isDigit, Char.isDigit, Char.le_def] using hdigit

theorem ofDigits_padded (width n : Nat) : ofDigits (padded width n) = n := by
  rw [ofDigits_eq, padded, Nat.ofDigitChars_append, Nat.ofDigitChars_replicate_zero, Nat.mul_zero,
    Nat.ofDigitChars_ten_toDigits]

theorem length_padded {width n : Nat} (hwidth : 0 < width) (hn : n < 10 ^ width) :
    (padded width n).length = width := by
  have hle := (Nat.length_toDigits_le_iff (b := 10) (by decide) hwidth).mpr hn
  simp only [padded, List.length_append, List.length_replicate]
  omega

theorem padded_ne_nil (width n : Nat) : padded width n ≠ [] :=
  List.append_ne_nil_of_right_ne_nil _ Nat.toDigits_ne_nil

/-- A number starts with one of its digits. -/
theorem exists_padded_append (width n : Nat) (rest : List Char) :
    ∃ c tail, padded width n ++ rest = c :: tail ∧ isDigit c = true := by
  cases hpadded : padded width n with
  | nil => exact absurd hpadded (padded_ne_nil width n)
  | cons c tail =>
    exact ⟨c, tail ++ rest, rfl, isDigit_of_mem_padded (hpadded ▸ List.mem_cons_self)⟩

theorem stripStart_cons {c : Char} (h : isBlank c = false) (rest : List Char) :
    stripStart (c :: rest) = c :: rest :=
  List.dropWhile_cons_of_neg (by simp [h])

theorem stripStart_padded (width n : Nat) (rest : List Char) :
    stripStart (padded width n ++ rest) = padded width n ++ rest := by
  obtain ⟨c, tail, heq, hc⟩ := exists_padded_append width n rest
  rw [heq, stripStart_cons (isBlank_of_isDigit hc)]

theorem takeWhile_padded (width n : Nat) {rest : List Char}
    (hrest : rest.takeWhile isDigit = []) :
    (padded width n ++ rest).takeWhile isDigit = padded width n := by
  rw [List.takeWhile_append_of_pos fun _ => isDigit_of_mem_padded, hrest, List.append_nil]

theorem dropWhile_padded (width n : Nat) (rest : List Char) :
    (padded width n ++ rest).dropWhile isDigit = rest.dropWhile isDigit :=
  List.dropWhile_append_of_pos fun _ => isDigit_of_mem_padded

/-! ## Reading the parts of a written text -/

theorem digits?_padded {width n : Nat} (hwidth : 0 < width) (hn : n < 10 ^ width)
    (rest : List Char) : digits? width (padded width n ++ rest) = some (n, rest) := by
  have hlength := length_padded hwidth hn
  have htake : ((padded width n ++ rest).take width).takeWhile isDigit = padded width n := by
    have hall := takeWhile_padded width n (List.takeWhile_nil (p := isDigit))
    rw [List.append_nil] at hall
    rw [List.take_left' hlength, hall]
  have hne : (padded width n).isEmpty = false := by
    simpa using padded_ne_nil width n
  simp only [digits?, htake, hne, ofDigits_padded, List.drop_left, Bool.false_eq_true, if_false]

theorem allDigits?_padded (width n : Nat) {c : Char} (hc : isDigit c = false) (rest : List Char) :
    allDigits? (padded width n ++ c :: rest) = some (n, c :: rest) := by
  have htake : (padded width n ++ c :: rest).takeWhile isDigit = padded width n :=
    takeWhile_padded width n (List.takeWhile_cons_of_neg (by simp [hc]))
  have hdrop : (padded width n ++ c :: rest).dropWhile isDigit = c :: rest := by
    rw [dropWhile_padded, List.dropWhile_cons_of_neg (by simp [hc])]
  have hne : (padded width n).isEmpty = false := by
    simpa using padded_ne_nil width n
  simp only [allDigits?, htake, hdrop, hne, ofDigits_padded, Bool.false_eq_true, if_false]

theorem field?_padded {low high n : Nat} (hlow : low ≤ n) (hhigh : n ≤ high) (hn : n < 100)
    (rest : List Char) : field? low high (padded 2 n ++ rest) = some (n, rest) := by
  simp only [field?, stripStart_padded, digits?_padded (by decide : 0 < 2) hn,
    Option.bind_eq_bind, Option.bind_some, if_pos (And.intro hlow hhigh)]

theorem mark?_cons {c : Char} (h : isBlank c = false) (rest : List Char) :
    mark? c (c :: rest) = some rest := by
  simp only [mark?, stripStart_cons h, if_pos]

theorem year?_yearText (year : Int) (rest : List Char) :
    year? (Date.yearText year ++ '-' :: rest) = some (year, '-' :: rest) := by
  by_cases hshort : 0 ≤ year ∧ year ≤ 9999
  · rw [Date.yearText, if_pos hshort]
    obtain ⟨c, tail, heq, hc⟩ := exists_padded_append 4 year.natAbs ('-' :: rest)
    have hread := digits?_padded (by decide : 0 < 4) (by omega : year.natAbs < 10 ^ 4) ('-' :: rest)
    have hyear : (year.natAbs : Int) = year := Int.natAbs_of_nonneg hshort.1
    unfold year?
    rw [stripStart_padded]
    split
    · next htext =>
      obtain rfl : c = '-' := (List.cons.inj (heq.symm.trans htext)).1
      cases hc
    · next htext =>
      obtain rfl : c = '+' := (List.cons.inj (heq.symm.trans htext)).1
      cases hc
    · simp only [hread, Option.map_some, hyear]
  · rw [Date.yearText, if_neg hshort]
    by_cases hneg : year < 0
    · have hyear : -(year.natAbs : Int) = year := by omega
      simp only [if_pos hneg, List.cons_append, year?,
        stripStart_cons (by decide : isBlank '-' = false),
        allDigits?_padded 4 year.natAbs (by decide : isDigit '-' = false), Option.map_some, hyear]
    · have hyear : (year.natAbs : Int) = year := by omega
      simp only [if_neg hneg, List.cons_append, year?,
        stripStart_cons (by decide : isBlank '+' = false),
        allDigits?_padded 4 year.natAbs (by decide : isDigit '-' = false), Option.map_some, hyear]

theorem of?_self (d : Date) : Date.of? d.year d.month d.day = some d := by
  simp only [Date.of?, dif_pos d.year_range, dif_pos d.month_range, dif_pos d.day_range]

theorem day_le (d : Date) : d.day ≤ 31 := by
  have hday := d.day_range.2
  unfold daysInMonth at hday
  grind

theorem date?_chars (d : Date) (rest : List Char) : date? (d.chars ++ rest) = some (d, rest) := by
  have hmonth := d.month_range
  have hday := d.day_range
  have hlast := day_le d
  simp only [date?, Date.chars, List.append_assoc, List.cons_append, year?_yearText,
    mark?_cons (by decide : isBlank '-' = false), field?_padded hmonth.1 hmonth.2 (by omega),
    field?_padded hday.1 hlast (by omega), of?_self, Option.bind_eq_bind, Option.bind_some]

/-- A fraction of `width` digits. -/
theorem fraction?_padded {width n : Nat} (hpos : 0 < width) (hwidth : width ≤ 9)
    (hn : n < 10 ^ width) :
    fraction? ('.' :: (padded width n ++ ['Z'])) = some (n * 10 ^ (9 - width), ['Z']) := by
  have htake : (padded width n ++ ['Z']).takeWhile isDigit = padded width n :=
    takeWhile_padded width n (by decide)
  have hdrop : (padded width n ++ ['Z']).dropWhile isDigit = ['Z'] := by
    rw [dropWhile_padded]
    decide
  have hne : (padded width n).isEmpty = false := by
    simpa using padded_ne_nil width n
  have hlength := length_padded hpos hn
  have hkept : (padded width n).take 9 = padded width n :=
    List.take_of_length_le (by omega)
  simp only [fraction?, htake, hdrop, hne, hkept, hlength, ofDigits_padded, Bool.false_eq_true,
    if_false]
  rfl

theorem fraction?_fractionChars {nanos : Nat} (h : nanos < 1000000000) :
    fraction? (fractionChars nanos ++ ['Z']) = some (nanos, ['Z']) := by
  unfold fractionChars
  split
  · next hzero =>
    subst hzero
    rfl
  · split
    · next hmillis =>
      rw [List.cons_append, fraction?_padded (by decide) (by decide) (by omega)]
      have hnanos : nanos / 1000000 * 10 ^ (9 - 3) = nanos := by omega
      rw [hnanos]
    · split
      · next hmicros =>
        rw [List.cons_append, fraction?_padded (by decide) (by decide) (by omega)]
        have hnanos : nanos / 1000 * 10 ^ (9 - 6) = nanos := by omega
        rw [hnanos]
      · rw [List.cons_append, fraction?_padded (by decide) (by decide) (by omega), Nat.sub_self,
          Nat.pow_zero, Nat.mul_one]

/-! ## Regular instants -/

/-- The second lies in the day, and only the last one of a minute has a leap second. -/
structure Regular (t : Timestamp) : Prop where
  second_lt : t.second < 86400
  nanos_lt : t.nanos < 2000000000
  leap : 1000000000 ≤ t.nanos → t.second % 60 = 59

theorem Regular.time?_text {t : Timestamp} (h : t.Regular) :
    time? (t.clockChars ++ (fractionChars (t.nanos % 1000000000) ++ ['Z']))
      = some ((t.second, t.nanos), ['Z']) := by
  have hsecond := h.second_lt
  have hnanos := h.nanos_lt
  have hmark := mark?_cons (by decide : isBlank ':' = false)
  have hfraction := fraction?_fractionChars (Nat.mod_lt t.nanos (by decide : 0 < 1000000000))
  have hhour := field?_padded (Nat.zero_le (t.second / 3600)) (by omega : _ ≤ 23) (by omega)
  have hminute := field?_padded (Nat.zero_le (t.second / 60 % 60)) (by omega : _ ≤ 59) (by omega)
  by_cases hleap : 1000000000 ≤ t.nanos
  · have hlast := h.leap hleap
    have hsixty := field?_padded (Nat.zero_le 60) (Nat.le_refl 60) (by decide)
    simp only [time?, clockChars, if_pos hleap, hlast, List.append_assoc, List.cons_append, hhour,
      hmark, hminute, hsixty, hfraction, Option.bind_eq_bind, Option.bind_some, if_true]
    have hday : t.second / 3600 * 3600 + t.second / 60 % 60 * 60 + min 60 59 = t.second := by omega
    have hpart : t.nanos % 1000000000 + 1000000000 = t.nanos := by omega
    rw [hday, hpart]
  · have hless : t.second % 60 ≠ 60 := by omega
    have hplain := field?_padded (Nat.zero_le (t.second % 60)) (by omega : _ ≤ 60) (by omega)
    simp only [time?, clockChars, if_neg hleap, Nat.add_zero, List.append_assoc, List.cons_append,
      hhour, hmark, hminute, hplain, hfraction, Option.bind_eq_bind, Option.bind_some,
      if_neg hless]
    have hday : t.second / 3600 * 3600 + t.second / 60 % 60 * 60 + min (t.second % 60) 59
        = t.second := by omega
    have hpart : t.nanos % 1000000000 = t.nanos := Nat.mod_eq_of_lt (by omega)
    rw [hday, hpart]

/-- The text of a regular instant is read as the instant. -/
theorem Regular.parse?_text {t : Timestamp} (h : t.Regular) : parse? t.text.toList = some t := by
  have hzone : offset? (stripStart ['Z']) = some (0, []) := by decide
  have hmoved : moved? t.date t.second t.nanos 0 = some t := by
    have hsecond := h.second_lt
    simp only [moved?, Int.sub_zero, if_neg (by omega : ¬ (t.second : Int) < 0),
      if_neg (by omega : ¬ (86400 : Int) ≤ t.second), Int.toNat_natCast]
  rw [text, String.toList_ofList, List.append_assoc]
  simp only [parse?, date?_chars, separator?, h.time?_text, hzone, hmoved, Option.bind_eq_bind,
    Option.bind_some, List.all_nil, true_or, if_true]

/-! ## What is read is regular -/

theorem field?_range {low high n : Nat} {s rest : List Char}
    (h : field? low high s = some (n, rest)) : low ≤ n ∧ n ≤ high := by
  simp only [field?, Option.bind_eq_bind, Option.bind_eq_some_iff] at h
  obtain ⟨⟨m, tail⟩, -, hm⟩ := h
  split at hm
  · next hrange =>
    cases hm
    exact hrange
  · cases hm

theorem fraction?_lt {n : Nat} {s rest : List Char} (h : fraction? s = some (n, rest)) :
    n < 1000000000 := by
  unfold fraction? at h
  split at h
  · next digits =>
    dsimp only at h
    split at h
    · cases h
    · simp only [Option.some.injEq, Prod.mk.injEq] at h
      obtain ⟨rfl, -⟩ := h
      have hdigits : ∀ c ∈ (digits.takeWhile isDigit).take 9, isDigit c = true := fun c hc =>
        List.all_eq_true.mp List.all_takeWhile c (List.mem_of_mem_take hc)
      have hlt := ofDigits_lt hdigits
      have hlength : ((digits.takeWhile isDigit).take 9).length ≤ 9 := List.length_take_le 9 _
      calc ofDigits ((digits.takeWhile isDigit).take 9) *
            10 ^ (9 - ((digits.takeWhile isDigit).take 9).length)
          < 10 ^ ((digits.takeWhile isDigit).take 9).length *
            10 ^ (9 - ((digits.takeWhile isDigit).take 9).length) :=
            Nat.mul_lt_mul_of_pos_right hlt (Nat.pow_pos (by decide))
        _ = 1000000000 := by rw [← Nat.pow_add, Nat.add_sub_cancel' hlength]
  · cases h
    decide

/-- The time of day in a text. -/
theorem regular_of_time? {date : Date} {second nanos : Nat} {s rest : List Char}
    (h : time? s = some ((second, nanos), rest)) : Regular ⟨date, second, nanos⟩ := by
  simp only [time?, Option.bind_eq_bind, Option.bind_eq_some_iff, Prod.exists, Option.some.injEq,
    Prod.mk.injEq] at h
  obtain ⟨hour, _, hhour, _, -, minute, _, hminute, _, -, inMinute, _, hinMinute, fraction, _,
    hfraction, ⟨rfl, rfl⟩, -⟩ := h
  have hhour := (field?_range hhour).2
  have hminute := (field?_range hminute).2
  have hinMinute := (field?_range hinMinute).2
  have hfraction := fraction?_lt hfraction
  by_cases hleap : inMinute = 60
  · subst hleap
    constructor <;> simp only [if_true] <;> omega
  · simp only [if_neg hleap]
    constructor <;> dsimp only <;> omega

/-- An offset is a whole number of minutes, and less than a day. -/
theorem offsetSize?_range {n : Nat} {s rest : List Char} (h : offsetSize? s = some (n, rest)) :
    n % 60 = 0 ∧ n < 86400 := by
  simp only [offsetSize?, Option.bind_eq_bind, Option.bind_eq_some_iff, Prod.exists] at h
  obtain ⟨hours, _, -, minutes, _, -, h⟩ := h
  split at h
  · next hrange =>
    cases h
    omega
  · cases h

theorem offset?_range {offset : Int} {s rest : List Char} (h : offset? s = some (offset, rest)) :
    offset % 60 = 0 ∧ -86400 < offset ∧ offset < 86400 := by
  unfold offset? at h
  split at h
  · cases h
    decide
  · split at h
    · cases h
    · split at h
      · cases h
        decide
      · split at h
        · obtain ⟨⟨n, tail⟩, hsize, heq⟩ := Option.map_eq_some_iff.mp h
          cases heq
          have hrange := offsetSize?_range hsize
          omega
        · split at h
          · obtain ⟨⟨n, tail⟩, hsize, heq⟩ := Option.map_eq_some_iff.mp h
            cases heq
            have hrange := offsetSize?_range hsize
            omega
          · cases h

/-- Moved by whole minutes, a leap second still ends its minute. -/
theorem Regular.moved? {date : Date} {second nanos : Nat} (h : Regular ⟨date, second, nanos⟩)
    {offset : Int} (hoffset : offset % 60 = 0 ∧ -86400 < offset ∧ offset < 86400) {t : Timestamp}
    (ht : moved? date second nanos offset = some t) : t.Regular := by
  obtain ⟨hsecond, hnanos, hleap⟩ := h
  simp only at hsecond hnanos hleap
  simp only [Timestamp.moved?] at ht
  split at ht
  · obtain ⟨d, -, rfl⟩ := Option.map_eq_some_iff.mp ht
    constructor <;> dsimp only <;> omega
  · split at ht
    · obtain ⟨d, -, rfl⟩ := Option.map_eq_some_iff.mp ht
      constructor <;> dsimp only <;> omega
    · cases ht
      constructor <;> dsimp only <;> omega

theorem regular_of_parse? {s : List Char} {t : Timestamp} (h : parse? s = some t) : t.Regular := by
  simp only [parse?, Option.bind_eq_bind, Option.bind_eq_some_iff, Prod.exists] at h
  obtain ⟨date, _, -, _, -, second, nanos, _, htime, offset, _, hoffset, h⟩ := h
  split at h
  · exact (regular_of_time? htime).moved? (offset?_range hoffset) h
  · cases h

end Timestamp

end AssetSearch
