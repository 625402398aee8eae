/-
# JSON texts

The compact text of a value: members in their order, no white space, and inside strings only the
quote, the backslash and the control characters escaped, the latter by a short escape if they have
one and by `\u` with four hexadecimal digits otherwise.

Key definitions: `Json.text` and `Json.bytes`.
-/
import AssetSearch.Json.Parser

namespace AssetSearch.Json

/-! ## Strings -/

/-- A hexadecimal digit in lower case. -/
def hexChar (n : Nat) : Char :=
  if n < 10 then Char.ofNat (0x30 + n) else Char.ofNat (0x57 + n)

/-- How one character is written inside a string. -/
def escapedChar (c : Char) : List Char :=
  if c = '"' then ['\\', '"']
  else if c = '\\' then ['\\', '\\']
  else if c = '\x08' then ['\\', 'b']
  else if c = '\t' then ['\\', 't']
  else if c = '\n' then ['\\', 'n']
  else if c = '\x0C' then ['\\', 'f']
  else if c = '\r' then ['\\', 'r']
  else if c < ' ' then ['\\', 'u', '0', '0', hexChar (c.toNat / 16), hexChar (c.toNat % 16)]
  else [c]

/-- Whether a character stands for itself inside a string. -/
def isPlain (c : Char) : Bool :=
  c ≠ '"' && c ≠ '\\' && ' ' ≤ c

/-- The characters of a string as they are written; a string of plain ones stays as it is. -/
def escaped (s : List Char) : List Char :=
  if s.all isPlain then s else s.flatMap escapedChar

/-- A string with its quotes. -/
def stringText (s : String) : List Char :=
  '"' :: (escaped s.toList ++ ['"'])

theorem escapedChar_of_isPlain {c : Char} (h : isPlain c = true) : escapedChar c = [c] := by
  simp only [isPlain, Bool.and_eq_true, decide_eq_true_eq] at h
  obtain ⟨⟨hq, hb⟩, hs⟩ := h
  have hlt : ¬ c < ' ' := Char.not_lt.mpr hs
  have ne (d : Char) (hd : d < ' ') : c ≠ d := fun e => hlt (e ▸ hd)
  unfold escapedChar
  rw [if_neg hq, if_neg hb, if_neg (ne _ (by decide)), if_neg (ne _ (by decide)),
    if_neg (ne _ (by decide)), if_neg (ne _ (by decide)), if_neg (ne _ (by decide)), if_neg hlt]

/-- Every character is written on its own. -/
theorem escaped_eq (s : List Char) : escaped s = s.flatMap escapedChar := by
  unfold escaped
  split
  · rename_i h
    rw [List.all_eq_true] at h
    induction s with
    | nil => rfl
    | cons c s ih =>
      rw [List.flatMap_cons, escapedChar_of_isPlain (h c List.mem_cons_self),
        ← ih fun d hd => h d (List.mem_cons_of_mem c hd)]
      rfl
  · rfl

/-! ## Values -/

mutual

/-- The compact text of a value; a value that could not be read is shown as `null`. -/
def chars : Json → List Char
  | null => ['n', 'u', 'l', 'l']
  | bool true => ['t', 'r', 'u', 'e']
  | bool false => ['f', 'a', 'l', 's', 'e']
  | number n => n.text
  | string s => stringText s
  | array items => '[' :: (itemChars items ++ [']'])
  | object members => '\x7b' :: (memberChars members ++ ['\x7d'])
  | unreadable => ['n', 'u', 'l', 'l']

/-- The items of an array, separated by commas. -/
def itemChars : List Json → List Char
  | [] => []
  | [j] => chars j
  | j :: rest => chars j ++ ',' :: itemChars rest

/-- The members of an object, separated by commas. -/
def memberChars : List (String × Json) → List Char
  | [] => []
  | [(k, j)] => stringText k ++ ':' :: chars j
  | (k, j) :: rest => stringText k ++ ':' :: (chars j ++ ',' :: memberChars rest)

end

/-- The compact text of a value. -/
def text (j : Json) : String :=
  String.ofList j.chars

/-- The compact text of a value in bytes. -/
def bytes (j : Json) : List UInt8 :=
  bytesOf j.text

end AssetSearch.Json
