/-
# Suggestions while a query is typed

The word that is being typed is what follows the last boundary character, in lower case.  The
suggestions are the fragments of the platform whose text or description contains that word,
whatever the case; while nothing has been typed, all of them.

Key definitions: `Query.lastToken`, `Query.suggestions`.
-/
import AssetSearch.Dialect
import AssetSearch.Text.Occurrence

namespace AssetSearch.Query

/-! ## The word being typed -/

/-- White space and the operator characters end a word. -/
def isBoundary (c : Char) : Bool :=
  Text.isBlank c || c == '&' || c == '|' || c == '(' || c == ')'

/-- The characters behind the last boundary. -/
def lastWord (s : List Char) : List Char :=
  (s.reverse.takeWhile fun c => !isBoundary c).reverse

/-- The word being typed, in lower case. -/
def lastToken (text : String) : String :=
  Text.lower (String.ofList (lastWord text.toList))

/-! ## Suggestions -/

/-- Whether a word occurs in a fragment or its description, whatever their case. -/
def offers (token : String) (hint : Hint) : Bool :=
  Text.contains (Text.lower hint.label) token || Text.contains (Text.lower hint.description) token

/-- The fragments that go with the text typed so far, in the order of the platform. -/
def suggestions (platform : Platform) (text : String) : List Hint :=
  if Text.blank text then platform.hints
  else platform.hints.filter (offers (lastToken text))

end AssetSearch.Query
