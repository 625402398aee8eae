/-
# The keys in a text

A text holds keys in lines of their own: every line is blank, or a key with blanks around it, and
ends at a line feed or at a carriage return with a line feed.  Every text is of this form in just
one way, as far as its keys are concerned, and these are the keys that it is read as.

Key definitions: `Keys.IsKey`, `Keys.Line`, `Keys.Sheet`, `Keys.lines`.  Key statements:
`Keys.splitLines_append`, `Keys.Sheet.flatMap_splitLines`, `Keys.sheet_splitLines`,
`Keys.flatMap_lines`, `Keys.keys_of_text`.
-/
import Mathlib.Data.List.TakeWhile
import AssetSearch.Proofs.Backend.WellFormed
import AssetSearch.Text.Pieces

namespace AssetSearch

/-! ## Blanks around a text -/

namespace Text

theorem strip_append_left {pad : List Char} (h : ∀ c ∈ pad, isBlank c = true) (s : List Char) :
    strip (pad ++ s) = strip s := by
  rw [strip, stripStart, List.dropWhile_append_of_pos h]
  rfl

theorem strip_append_right {pad : List Char} (h : ∀ c ∈ pad, isBlank c = true) (s : List Char) :
    strip (s ++ pad) = strip s := by
  by_cases hs : stripStart s = []
  · -- all of it is blank
    have hall := (stripStart_eq_nil_iff s).1 hs
    rw [(strip_eq_nil_iff s).2 hall, strip_eq_nil_iff]
    exact List.forall_mem_append.2 ⟨hall, h⟩
  · have hstart : stripStart (s ++ pad) = stripStart s ++ pad := by
      rw [stripStart, List.dropWhile_append, if_neg (by simpa [stripStart] using hs)]
      rfl
    have hend : stripStart (pad.reverse ++ (stripStart s).reverse)
        = stripStart (stripStart s).reverse :=
      List.dropWhile_append_of_pos fun c hc => h c (List.mem_reverse.1 hc)
    rw [strip, hstart, stripEnd, List.reverse_append, hend]
    rfl

/-- A text is what trimming leaves of it, with blanks around. -/
theorem exists_strip (s : List Char) : ∃ before after, s = before ++ strip s ++ after ∧
    (∀ c ∈ before, isBlank c = true) ∧ ∀ c ∈ after, isBlank c = true := by
  let t := stripStart s
  refine ⟨s.takeWhile isBlank, (t.reverse.takeWhile isBlank).reverse, ?_, ?_, ?_⟩
  · have hend : t = strip s ++ (t.reverse.takeWhile isBlank).reverse := by
      rw [strip, stripEnd, ← List.reverse_append]
      exact List.reverse_eq_iff.1 List.takeWhile_append_dropWhile.symm
    rw [List.append_assoc, ← hend]
    exact List.takeWhile_append_dropWhile.symm
  · exact fun c hc => List.mem_takeWhile_imp hc
  · exact fun c hc => List.mem_takeWhile_imp (List.mem_reverse.1 hc)

theorem stripStart_eq_self {s : List Char} (h : ∀ c, s.head? = some c → isBlank c = false) :
    stripStart s = s := by
  cases s with
  | nil => rfl
  | cons c rest => exact List.dropWhile_cons_of_neg (by simp [h c rfl])

theorem strip_of_filled {s : String} (h : Filled s) : strip s.toList = s.toList := by
  have hend : stripStart s.toList.reverse = s.toList.reverse :=
    stripStart_eq_self (by simpa only [List.head?_reverse] using h.finish)
  rw [strip, stripStart_eq_self h.start, stripEnd, hend, List.reverse_reverse]

end Text

namespace Keys

/-! ## Cutting at line feeds -/

theorem splitLines_eq_pieces (s : List Char) : splitLines s = Text.pieces '\n' s := by
  induction s with
  | nil => rfl
  | cons c rest ih =>
    cases hrest : Text.pieces '\n' rest <;> simp [splitLines, Text.pieces, ih, hrest]

theorem splitLines_cons {c : Char} (h : c ≠ '\n') {s line : List Char} {others : List (List Char)}
    (hs : splitLines s = line :: others) : splitLines (c :: s) = (c :: line) :: others := by
  rw [splitLines, if_neg h, hs]

theorem splitLines_append (a b : List Char) :
    splitLines (a ++ '\n' :: b) = splitLines a ++ splitLines b := by
  induction a with
  | nil => rfl
  | cons c a ih =>
    by_cases hc : c = '\n'
    · simp only [List.cons_append, splitLines, if_pos hc, ih]
    · have hne : splitLines a ≠ [] := splitLines_eq_pieces a ▸ Text.pieces_ne_nil '\n' a
      obtain ⟨line, others, ha⟩ := List.exists_cons_of_ne_nil hne
      rw [ha, List.cons_append] at ih
      rw [List.cons_append, splitLines_cons hc ih, splitLines_cons hc ha, List.cons_append]

theorem splitLines_of_notMem {s : List Char} (h : '\n' ∉ s) : splitLines s = [s] := by
  induction s with
  | nil => rfl
  | cons c s ih =>
    have hc : c ≠ '\n' := fun heq => h (heq ▸ List.mem_cons_self)
    exact splitLines_cons hc (ih fun hs => h (List.mem_cons_of_mem c hs))

/-! ## Keys in lines -/

/-- A text that can be a key: trimmed, not empty, and without line feeds. -/
structure IsKey (key : String) : Prop where
  filled : Text.Filled key
  unbroken : '\n' ∉ key.toList

/-- Blanks that stay in one line. -/
structure Padding (s : List Char) : Prop where
  blank : ∀ c ∈ s, Text.isBlank c = true
  unbroken : '\n' ∉ s

/-- The keys in one line: none in a blank one. -/
inductive Line : List String → List Char → Prop where
  | blank {pad : List Char} (hpad : Padding pad) : Line [] pad
  | key {before after : List Char} {key : String} (hbefore : Padding before) (hkey : IsKey key)
      (hafter : Padding after) : Line [key] (before ++ key.toList ++ after)

/-- What ends a line. -/
def lineEnds : List (List Char) :=
  [['\n'], ['\r', '\n']]

/-- The keys in a text, in order; the last line has no end. -/
inductive Sheet : List String → List Char → Prop where
  | last {keys : List String} {line : List Char} (hline : Line keys line) : Sheet keys line
  | next {keys others : List String} {line ending rest : List Char} (hline : Line keys line)
      (hending : ending ∈ lineEnds) (hrest : Sheet others rest) :
      Sheet (keys ++ others) (line ++ ending ++ rest)

/-- The keys that a line is read as. -/
def lineKeys (line : List Char) : List String :=
  (Text.filled? (String.ofList line)).toList

theorem lineKeys_eq (line : List Char) :
    lineKeys line = if Text.strip line = [] then [] else [String.ofList (Text.strip line)] := by
  have hblank : Text.blank (String.ofList line) = true ↔ Text.strip line = [] := by
    rw [Text.blank_iff, Text.strip_eq_nil_iff, String.toList_ofList]
  rw [lineKeys, Text.filled?]
  by_cases h : Text.strip line = []
  · rw [if_pos h, if_pos (hblank.2 h)]
    rfl
  · rw [if_neg h, if_neg (mt hblank.1 h), Text.trim, String.toList_ofList]
    rfl

/-- A text is read line after line. -/
theorem parseBatch_eq (text : String) :
    parseBatch text = (splitLines text.toList).flatMap lineKeys := by
  rw [parseBatch]
  induction splitLines text.toList with
  | nil => rfl
  | cons line others ih =>
    rw [List.flatMap_cons, ← ih, lineKeys_eq]
    by_cases h : Text.strip line = [] <;> simp [h]

namespace Line

variable {keys : List String} {line : List Char}

theorem unbroken (h : Line keys line) : '\n' ∉ line := by
  cases h with
  | blank hpad => exact hpad.unbroken
  | key hbefore hkey hafter =>
    simp only [List.mem_append, not_or]
    exact ⟨⟨hbefore.unbroken, hkey.unbroken⟩, hafter.unbroken⟩

theorem lineKeys_eq (h : Line keys line) : lineKeys line = keys := by
  rw [Keys.lineKeys_eq]
  cases h with
  | blank hpad => rw [if_pos ((Text.strip_eq_nil_iff line).2 hpad.blank)]
  | @key before after key hbefore hkey hafter =>
    have hstrip : Text.strip (before ++ key.toList ++ after) = key.toList := by
      rw [Text.strip_append_right hafter.blank, Text.strip_append_left hbefore.blank,
        Text.strip_of_filled hkey.filled]
    have hne : key.toList ≠ [] := fun hnil => hkey.filled.nonempty (String.toList_eq_nil_iff.1 hnil)
    rw [hstrip, if_neg hne, String.ofList_toList]

end Line

/-- Whatever stands in one line is a line of keys. -/
theorem line_lineKeys {line : List Char} (h : '\n' ∉ line) : Line (lineKeys line) line := by
  rw [lineKeys_eq]
  by_cases hstrip : Text.strip line = []
  · rw [if_pos hstrip]
    exact .blank ⟨(Text.strip_eq_nil_iff line).1 hstrip, h⟩
  · rw [if_neg hstrip]
    obtain ⟨before, after, heq, hbefore, hafter⟩ := Text.exists_strip line
    have hparts : '\n' ∉ before ∧ '\n' ∉ Text.strip line ∧ '\n' ∉ after := by
      rw [heq] at h
      simpa only [List.mem_append, not_or, and_assoc] using h
    have hkey : IsKey (String.ofList (Text.strip line)) :=
      ⟨Text.filled_ofList_strip hstrip, by simpa only [String.toList_ofList] using hparts.2.1⟩
    have hline : Line [String.ofList (Text.strip line)] _ :=
      .key ⟨hbefore, hparts.1⟩ hkey ⟨hafter, hparts.2.2⟩
    rw [String.toList_ofList, ← heq] at hline
    exact hline

/-! ## Keys in texts -/

/-- A text is one line, or a line, a line feed and a text. -/
theorem line_induction {P : List Char → Prop} (last : ∀ line, '\n' ∉ line → P line)
    (next : ∀ line rest, '\n' ∉ line → P rest → P (line ++ '\n' :: rest)) (s : List Char) :
    P s := by
  induction hlength : s.length using Nat.strong_induction_on generalizing s with
  | _ n ih =>
    by_cases h : '\n' ∈ s
    · obtain ⟨line, rest, rfl, hline⟩ := List.eq_append_cons_of_mem h
      refine next line rest hline (ih rest.length ?_ rest rfl)
      rw [← hlength, List.length_append, List.length_cons]
      omega
    · exact last s h

theorem flatMap_splitLines_next {line : List Char} (h : '\n' ∉ line) (rest : List Char) :
    (splitLines (line ++ '\n' :: rest)).flatMap lineKeys
      = lineKeys line ++ (splitLines rest).flatMap lineKeys := by
  rw [splitLines_append, splitLines_of_notMem h, List.flatMap_append, List.flatMap_singleton]

/-- A carriage return at the end of a line counts among its blanks. -/
theorem lineKeys_concat_return (line : List Char) : lineKeys (line ++ ['\r']) = lineKeys line := by
  have hreturn : ∀ c ∈ ['\r'], Text.isBlank c := List.forall_mem_singleton.2 (by decide)
  rw [lineKeys_eq, lineKeys_eq, Text.strip_append_right hreturn]

/-- The keys in a text are those of the lines that it is cut into. -/
theorem Sheet.flatMap_splitLines {keys : List String} {s : List Char} (h : Sheet keys s) :
    (splitLines s).flatMap lineKeys = keys := by
  induction h with
  | last hline =>
    rw [splitLines_of_notMem hline.unbroken, List.flatMap_singleton, hline.lineKeys_eq]
  | @next keys others line ending rest hline hending _ ih =>
    have hends : ending = ['\n'] ∨ ending = ['\r', '\n'] := by simpa [lineEnds] using hending
    rcases hends with rfl | rfl
    · rw [List.append_assoc, List.singleton_append, flatMap_splitLines_next hline.unbroken, ih,
        hline.lineKeys_eq]
    · have hreturn : '\n' ∉ line ++ ['\r'] := by simpa using hline.unbroken
      have hcut : line ++ ['\r', '\n'] ++ rest = (line ++ ['\r']) ++ '\n' :: rest := by simp
      rw [hcut, flatMap_splitLines_next hreturn, ih, lineKeys_concat_return, hline.lineKeys_eq]

/-- **Every text is a sheet** of the keys of its lines. -/
theorem sheet_splitLines (s : List Char) : Sheet ((splitLines s).flatMap lineKeys) s := by
  induction s using line_induction with
  | last line h =>
    rw [splitLines_of_notMem h, List.flatMap_singleton]
    exact .last (line_lineKeys h)
  | next line rest h ih =>
    rw [flatMap_splitLines_next h]
    have hending : ['\n'] ∈ lineEnds := by decide
    have hsheet := Sheet.next (line_lineKeys h) hending ih
    rwa [List.append_assoc, List.singleton_append] at hsheet

/-- A text is read as the keys that it is a sheet of. -/
theorem parseBatch_eq_iff (text : String) (keys : List String) :
    parseBatch text = keys ↔ Sheet keys text.toList := by
  rw [parseBatch_eq]
  exact ⟨fun h => h ▸ sheet_splitLines text.toList, Sheet.flatMap_splitLines⟩

theorem Sheet.isKey {keys : List String} {s : List Char} (h : Sheet keys s) :
    ∀ key ∈ keys, IsKey key := by
  have hone : ∀ {keys line}, Line keys line → ∀ key ∈ keys, IsKey key := by
    intro keys line hline
    cases hline with
    | blank => exact List.forall_mem_nil _
    | key _ hkey _ => exact List.forall_mem_singleton.2 hkey
  induction h with
  | last hline => exact hone hline
  | next hline _ _ ih => exact List.forall_mem_append.2 ⟨hone hline, ih⟩

/-- **The keys in a text.**  Two texts one below the other have the keys of both.  Whatever is read
is a key: not empty, without blanks at either end, and without line feeds.  And a text is read as
some keys just if it has these keys, in their order, in lines of their own, with any blanks around
them and any blank lines, where each line may end with or without a carriage return. -/
theorem keys_of_text :
    (∀ a b : String, parseBatch (a ++ "\n" ++ b) = parseBatch a ++ parseBatch b) ∧
    (∀ (text : String), ∀ key ∈ parseBatch text, IsKey key) ∧
    ∀ (text : String) (keys : List String), parseBatch text = keys ↔ Sheet keys text.toList := by
  refine ⟨fun a b => ?_, fun text => ?_, parseBatch_eq_iff⟩
  · have hchars : (a ++ "\n" ++ b).toList = a.toList ++ '\n' :: b.toList := by simp
    rw [parseBatch_eq, parseBatch_eq, parseBatch_eq, hchars, splitLines_append, List.flatMap_append]
  · exact ((parseBatch_eq_iff text _).1 rfl).isKey

/-- Keys with a tab and a line separator around them, blanks inside, and lines with and without a
carriage return. -/
theorem keys_of_text_pasted :
    let text := " key one\u2028\r\n \r\n\tkey-two\n\nkey\rthree"
    "key one" ∈ parseBatch text ∧ IsKey "key one" ∧
      parseBatch (text ++ "\n" ++ text)
        = ["key one", "key-two", "key\rthree", "key one", "key-two", "key\rthree"] := by
  intro text
  have htext : parseBatch text = ["key one", "key-two", "key\rthree"] := by decide +kernel
  obtain ⟨happend, hkeys, -⟩ := keys_of_text
  have hmem : "key one" ∈ parseBatch text := htext ▸ List.mem_cons_self
  exact ⟨hmem, hkeys text _ hmem, by rw [happend, htext]; rfl⟩

/-! ## Lines -/

/-- The lines of a text: a line ends at a line feed, with the carriage return before it if there is
one, and what stands behind the last line feed is a line unless it is empty. -/
def lines : List Char → List (List Char)
  | [] => []
  | '\n' :: rest => [] :: lines rest
  | '\r' :: '\n' :: rest => [] :: lines rest
  | c :: rest =>
    match lines rest with
    | [] => [[c]]
    | line :: others => (c :: line) :: others

/-- The lines of a text that are not blank. -/
def filledLines (text : String) : List String :=
  ((lines text.toList).map String.ofList).filter fun line => !Text.blank line

/-- A character that ends no line comes before the first line of what follows. -/
theorem lines_cons {c : Char} {rest : List Char} (hfeed : c ≠ '\n')
    (hreturn : c = '\r' → ∀ tail, rest ≠ '\n' :: tail) :
    lines (c :: rest) = (match lines rest with
      | [] => [[c]]
      | line :: others => (c :: line) :: others) := by
  rw [lines.eq_4 c rest (fun h => hfeed h) fun tail hc htail => hreturn hc tail htail]

theorem lines_last {s : List Char} (h : '\n' ∉ s) : lines s = if s = [] then [] else [s] := by
  induction s with
  | nil => rfl
  | cons c s ih =>
    have hfeed : c ≠ '\n' := fun heq => h (heq ▸ List.mem_cons_self)
    have hs : '\n' ∉ s := fun hs => h (List.mem_cons_of_mem c hs)
    rw [lines_cons hfeed (by rintro - tail rfl; exact hs List.mem_cons_self), ih hs]
    by_cases hnil : s = []
    · subst hnil
      rfl
    · rw [if_neg hnil, if_neg (List.cons_ne_nil c s)]

/-- A line feed ends the first line, which loses a carriage return at its end. -/
theorem exists_lines_next {line : List Char} (h : '\n' ∉ line) (rest : List Char) :
    ∃ first, (line = first ∨ line = first ++ ['\r']) ∧
      lines (line ++ '\n' :: rest) = first :: lines rest := by
  induction line with
  | nil => exact ⟨[], .inl rfl, rfl⟩
  | cons c line ih =>
    have hfeed : c ≠ '\n' := fun heq => h (heq ▸ List.mem_cons_self)
    have hline : '\n' ∉ line := fun hs => h (List.mem_cons_of_mem c hs)
    by_cases hreturn : c = '\r' ∧ line = []
    · obtain ⟨rfl, rfl⟩ := hreturn
      exact ⟨[], .inr rfl, rfl⟩
    · obtain ⟨first, hfirst, hlines⟩ := ih hline
      have hgoes : c = '\r' → ∀ tail, line ++ '\n' :: rest ≠ '\n' :: tail := by
        intro hc tail htail
        cases line with
        | nil => exact hreturn ⟨hc, rfl⟩
        | cons d line =>
          obtain rfl : d = '\n' := (List.cons.inj htail).1
          exact hline List.mem_cons_self
      refine ⟨c :: first, ?_, ?_⟩
      · exact hfirst.imp (congrArg (c :: ·)) (congrArg (c :: ·))
      · rw [List.cons_append, lines_cons hfeed hgoes, hlines]

/-- Cutting a text into lines or at its line feeds makes no difference to its keys. -/
theorem flatMap_lines (s : List Char) :
    (lines s).flatMap lineKeys = (splitLines s).flatMap lineKeys := by
  induction s using line_induction with
  | last line h =>
    rw [splitLines_of_notMem h, List.flatMap_singleton, lines_last h]
    by_cases hnil : line = []
    · subst hnil
      rfl
    · rw [if_neg hnil, List.flatMap_singleton]
  | next line rest h ih =>
    obtain ⟨first, hfirst, hlines⟩ := exists_lines_next h rest
    rw [hlines, List.flatMap_cons, ih, flatMap_splitLines_next h]
    rcases hfirst with rfl | rfl
    · rfl
    · rw [lineKeys_concat_return]

/-- The keys of a text are its lines that are not blank, trimmed. -/
theorem parseBatch_eq_map (text : String) : parseBatch text = (filledLines text).map Text.trim := by
  rw [parseBatch_eq, ← flatMap_lines, filledLines]
  induction lines text.toList with
  | nil => rfl
  | cons line others ih =>
    rw [List.flatMap_cons, ih, lineKeys, Text.filled?]
    by_cases h : Text.blank (String.ofList line) = true <;> simp [h]

end Keys

end AssetSearch
