/-
# Saving the theme among other files

A save in a tree of files: the directory of the theme file is made, the new content is written to a
temporary file, and that file is moved to the place of the theme file.  What stands in the tree
decides which of these steps fails; what the steps before it did stays done.

Key definitions: `Files.Tree.saveTheme`, `ThemeStore.loadFrom`, `ThemeStore.setIn` and
`ThemeStore.toggleIn`.
-/
import AssetSearch.Files.Tree
import AssetSearch.Theme.Store

namespace AssetSearch

/-- Saves a content at a path; the step that fails, if one does, and the tree afterwards. -/
def Files.Tree.saveTheme (t : Files.Tree) (path tag : String) (content : List UInt8) :
    Option Theme.SaveStep × Files.Tree :=
  match t.making (Path.parent path) with
  | (false, started) => (some .createParent, started)
  | (true, made) =>
    match made.write (Theme.temporaryOf path tag) content with
    | none => (some .createTemporary, made)
    | some written =>
      match written.rename (Theme.temporaryOf path tag) path with
      | none => (some .rename, written)
      | some moved => (none, moved)

namespace ThemeStore

/-- A store that takes its theme from its file in a tree. -/
def loadFrom (t : Files.Tree) (path : String) : ThemeStore :=
  load path (t.read path)

/-- The files of the store in a tree. -/
def diskIn (s : ThemeStore) (t : Files.Tree) (tag : String) : Theme.Disk :=
  match s.path with
  | none => ⟨none, none⟩
  | some path => ⟨t.read path, t.read (Theme.temporaryOf path tag)⟩

/-- Changes the theme and saves it in a tree; `message` says what the system reports when a step
fails. -/
def setIn (s : ThemeStore) (theme : Theme) (t : Files.Tree) (message tag : String) :
    Outcome Unit × ThemeStore × Files.Tree :=
  let (failed, after) :=
    match s.path with
    | none => (none, t)
    | some path => t.saveTheme path tag theme.fileBytes
  let (outcome, s, _) :=
    s.set theme (s.diskIn t tag) (failed.map fun step => ⟨step, message, 0⟩) tag
  (outcome, s, after)

/-- Changes to the other theme in a tree; also which one that is. -/
def toggleIn (s : ThemeStore) (t : Files.Tree) (message tag : String) :
    Outcome Theme × ThemeStore × Files.Tree :=
  let next := s.theme.toggled
  let (outcome, s, t) := s.setIn next t message tag
  (outcome.map fun _ => next, s, t)

end ThemeStore

end AssetSearch
