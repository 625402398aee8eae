/-
# Themes

The colour theme of the program: light, dark, or that of the operating system.
-/
import AssetSearch.Json.Decode

namespace AssetSearch

/-- A colour theme. -/
inductive Theme where
  | light
  | dark
  /-- The theme of the operating system. -/
  | system
  deriving DecidableEq, Repr

namespace Theme

/-- The theme when none was chosen. -/
def default : Theme :=
  dark

instance : Inhabited Theme := ⟨default⟩

/-- Every theme. -/
def all : List Theme :=
  [light, dark, system]

/-- The name of a theme in data. -/
def key : Theme → String
  | light => "light"
  | dark => "dark"
  | system => "system"

/-- The name of a theme in diagnostics. -/
def label : Theme → String
  | light => "Light"
  | dark => "Dark"
  | system => "System"

/-- The other one of light and dark; light in place of the system's theme. -/
def toggled : Theme → Theme
  | light => dark
  | dark | system => light

/-- The theme that is shown, given whether the operating system prefers a dark one. -/
def effective (prefersDark : Bool) : Theme → Theme
  | system => if prefersDark then dark else light
  | t => t

/-- The theme as data. -/
def toJson (t : Theme) : Json :=
  .string t.key

/-- Reads a theme from data. -/
def ofJson : Json → Decoded Theme :=
  Json.toChoice (all.map fun t => (t.key, t))

end Theme

end AssetSearch
