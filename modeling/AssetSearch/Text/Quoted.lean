/-
# Quoted text

How a text is shown inside a diagnostic: between double quotes, with the quote and the backslash
escaped, the usual short escapes for tab, line breaks and the null character, and every character
that is not printable, or that would attach to the one before it, as `\\u` and its code point in
hexadecimal digits between braces.
-/
import AssetSearch.Text.PrintTables

namespace AssetSearch.Text

/-- The hexadecimal digits of a code point, without leading zeros. -/
def hexDigits (n : Nat) : List Char :=
  Nat.toDigits 16 n

/-- The code point of a character as a braced escape. -/
def codePointEscape (c : Char) : List Char :=
  ['\\', 'u', Char.ofNat 0x7B] ++ hexDigits c.toNat ++ [Char.ofNat 0x7D]

/-- Whether a character stands for itself in quoted text. -/
def isShown (c : Char) : Bool :=
  !inSpans c.toNat graphemeExtendSpans && !inSpans c.toNat unprintableSpans

/-- How one character is written between the quotes. -/
def quotedChar (c : Char) : List Char :=
  match c with
  | '\x00' => ['\\', '0']
  | '\t' => ['\\', 't']
  | '\r' => ['\\', 'r']
  | '\n' => ['\\', 'n']
  | '"' => ['\\', '"']
  | '\\' => ['\\', '\\']
  | c => if isShown c then [c] else codePointEscape c

/-- The text between double quotes. -/
def quoted (s : String) : String :=
  String.ofList ('"' :: s.toList.flatMap quotedChar ++ ['"'])

end AssetSearch.Text
