/-
# The theme that the program remembers

The theme in use, which views can watch, and the file that keeps it.  A change takes effect at once
and is then saved: the new content is written to a temporary file, which takes the place of the old
one.  Every step of a save may fail; the theme has changed all the same.

Key definitions: `Theme.Disk`, `Theme.Disk.save`, `ThemeStore`, `ThemeStore.load`, `ThemeStore.set`
and `ThemeStore.toggle`.
-/
import AssetSearch.Failure
import AssetSearch.Files.Path
import AssetSearch.Theme
import AssetSearch.Watch

namespace AssetSearch

namespace Theme

/-! ## The content of the file -/

/-- How the content of the file is read. -/
def fileReader : RecordReader Theme :=
  id <$> .required "theme" ofJson

/-- The theme in a file: the default one when there is no file, or its content is not a text, or
the text cannot be read. -/
def ofFile (content : Option (List UInt8)) : Theme :=
  match content.bind Json.textOf? with
  | none => default
  | some text =>
    match Json.decodeText (fileReader.read "ThemeFile") text with
    | .ok t => t
    | .error _ => default

/-- The text of the file. -/
def fileText (t : Theme) : String :=
  "\x7b\n  \"theme\": \"" ++ t.key ++ "\"\n\x7d"

/-- The content of the file. -/
def fileBytes (t : Theme) : List UInt8 :=
  Json.bytesOf t.fileText

/-! ## The disk -/

/-- The theme file and the temporary file beside it, as far as they exist. -/
structure Disk where
  target : Option (List UInt8)
  temporary : Option (List UInt8)
  deriving DecidableEq

/-- The steps of a save. -/
inductive SaveStep where
  | createParent
  | createTemporary
  | write
  | sync
  | rename
  deriving DecidableEq, Repr

/-- A step that fails, in the words of the system, and how many bytes were written until then. -/
structure Mishap where
  step : SaveStep
  message : String
  written : Nat
  deriving DecidableEq, Repr

namespace Disk

/-- Saves a content; with a mishap, the disk is left as the failing step found it. -/
def save (d : Disk) (content : List UInt8) (mishap : Option Mishap) : Disk :=
  match mishap with
  | none => ⟨some content, none⟩
  | some m =>
    match m.step with
    | .createParent => d
    | .createTemporary => d
    | .write => { d with temporary := some (content.take m.written) }
    | .sync => { d with temporary := some content }
    | .rename => { d with temporary := some content }

end Disk

/-- The path of the temporary file, told apart by a tag. -/
def temporaryOf (path tag : String) : String :=
  Path.withExtension path ("json." ++ tag ++ ".tmp")

end Theme

/-! ## The store -/

/-- The theme in use, its watchers, and the path of the file, if one keeps it. -/
structure ThemeStore where
  theme : Theme
  updates : Watch Theme
  path : Option String

namespace ThemeStore

/-- A store that starts with a theme. -/
def new (path : Option String) (theme : Theme) : ThemeStore :=
  ⟨theme, .new theme, path⟩

/-- A store without a file. -/
def inMemory (theme : Theme) : ThemeStore :=
  new none theme

/-- A store that takes its theme from its file. -/
def load (path : String) (content : Option (List UInt8)) : ThemeStore :=
  new (some path) (Theme.ofFile content)

/-- The path that a failed step names. -/
def pathOf (path tag : String) : Theme.SaveStep → String
  | .createParent => Path.parent path
  | .createTemporary | .write | .sync => Theme.temporaryOf path tag
  | .rename => path

/-- Puts a theme into use; the watchers learn of it if it is another one. -/
def adopt (s : ThemeStore) (theme : Theme) : ThemeStore :=
  if s.theme = theme then s else { s with theme := theme, updates := s.updates.send theme }

/-- Changes the theme and saves it. -/
def set (s : ThemeStore) (theme : Theme) (disk : Theme.Disk) (mishap : Option Theme.Mishap)
    (tag : String) : Outcome Unit × ThemeStore × Theme.Disk :=
  match s.path with
  | none => (.ok (), s.adopt theme, disk)
  | some path =>
    let outcome :=
      match mishap with
      | none => .ok ()
      | some m => .error (Failure.io m.message (some (pathOf path tag m.step)))
    (outcome, s.adopt theme, disk.save theme.fileBytes mishap)

/-- Changes to the other theme; also which one that is. -/
def toggle (s : ThemeStore) (disk : Theme.Disk) (mishap : Option Theme.Mishap) (tag : String) :
    Outcome Theme × ThemeStore × Theme.Disk :=
  let next := s.theme.toggled
  let (outcome, s, disk) := s.set next disk mishap tag
  (outcome.map fun _ => next, s, disk)

/-- The theme that is shown, given whether the operating system prefers a dark one. -/
def effective (s : ThemeStore) (prefersDark : Bool) : Theme :=
  s.theme.effective prefersDark

end ThemeStore

end AssetSearch
