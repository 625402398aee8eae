/-
# Numbers of a fixed width

Natural numbers in decimal, filled up with zeros on the left or, as a fraction, without the zeros
on the right.
-/

namespace AssetSearch.Text

/-- The decimal text of a number with zeros in front, at least `width` characters long. -/
def padded (width n : Nat) : List Char :=
  let digits := Nat.toDigits 10 n
  List.replicate (width - digits.length) '0' ++ digits

/-- The text without the zeros at its end. -/
def dropEndZeros (s : List Char) : List Char :=
  (s.reverse.dropWhile (· == '0')).reverse

end AssetSearch.Text
