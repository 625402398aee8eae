/-
# Saves that fail

A save may fail at each of its steps, for what stands in the tree or for any other reason, and what
the steps before it did stays done.  A save that fails touches no file but the temporary one; after
one that does not, the theme file holds the new content.

Key definitions: `Theme.Fault`, `Files.Tree.saveStopped`, `Files.Tree.saveAmid`.  Key statements:
`keeps_saveAmid`, `read_saveAmid`.
-/
import AssetSearch.Proofs.Files.Keeping
import AssetSearch.Proofs.Theme.Names
import AssetSearch.Theme.Saving

namespace AssetSearch

/-! ## A save -/

/-- A step of a save that fails although nothing in the tree stands against it, and how far it has
come by then: the number of steps of the path that were followed, or of bytes that were written. -/
structure Theme.Fault where
  step : Theme.SaveStep
  progress : Nat

namespace Files.Tree

open Theme (Fault temporaryOf)

/-- A save in which a step fails, unless one before it does. -/
def saveStopped (t : Tree) (path tag : String) (content : List UInt8) (f : Fault) :
    Theme.SaveStep × Tree :=
  if f.step = .createParent then
    (.createParent, (t.make [] ((Path.steps (Path.parent path)).take f.progress)).2)
  else
    match t.making (Path.parent path) with
    | (false, started) => (.createParent, started)
    | (true, made) =>
      if f.step = .createTemporary then (.createTemporary, made)
      else
        let reached := if f.step = .write then content.take f.progress else content
        match made.write (temporaryOf path tag) reached with
        | none => (.createTemporary, made)
        | some written => (f.step, written)

/-- A save with or without a fault; the step that fails, if one does, and the tree afterwards. -/
def saveAmid (t : Tree) (path tag : String) (content : List UInt8) :
    Option Fault → Option Theme.SaveStep × Tree
  | none => t.saveTheme path tag content
  | some f => (some (t.saveStopped path tag content f).1, (t.saveStopped path tag content f).2)

variable {t t' : Tree} {path tag : String} {content : List UInt8}

/-- A file that is written is the only one that changes. -/
theorem keeps_write (h : t.write path content = some t') :
    Keeps (fun place => t'.filePlace? path = some place) t t' := by
  obtain ⟨place, hplace, rfl⟩ := Option.map_eq_some_iff.1 h
  obtain ⟨_, _, _, _, _, hfree⟩ := filePlace?_eq_some_iff.1 hplace
  exact .put_file hfree (filePlace?_put_file content hplace) content

/-- A file that was moved is found where it was moved to. -/
theorem read_rename {source target : String} (hread : t.read source = some content)
    (h : t.rename source target = some t') : t'.read target = some content := by
  unfold rename at h
  rw [hread] at h
  dsimp only at h
  split at h
  · cases h
  · split at h
    · cases h
    · exact read_write h

theorem keeps_saveStopped (t : Tree) (path tag : String) (content : List UInt8) (f : Fault) :
    Keeps (fun place => (t.saveStopped path tag content f).2.filePlace? (temporaryOf path tag)
      = some place) t (t.saveStopped path tag content f).2 := by
  unfold saveStopped
  split
  · exact keeps_make _ t [] _
  · split
    · next started hmaking => exact keeps_making _ hmaking
    · next made hmaking =>
      split
      · exact keeps_making _ hmaking
      · dsimp only
        split
        · exact keeps_making _ hmaking
        · next written hwritten => exact (keeps_making _ hmaking).trans (keeps_write hwritten)

/-- **A save that fails touches no file but the temporary one.** -/
theorem keeps_saveAmid {fault : Option Fault} {step : Theme.SaveStep}
    (h : (t.saveAmid path tag content fault).1 = some step) :
    Keeps (fun place => (t.saveAmid path tag content fault).2.filePlace? (temporaryOf path tag)
      = some place) t (t.saveAmid path tag content fault).2 := by
  cases fault with
  | some f => exact keeps_saveStopped t path tag content f
  | none =>
    dsimp only [saveAmid] at h ⊢
    unfold saveTheme at h ⊢
    split at h
    · next started hmaking => exact keeps_making _ hmaking
    · next made hmaking =>
      split at h
      · exact keeps_making _ hmaking
      · next written hwritten =>
        split at h
        · exact (keeps_making _ hmaking).trans (keeps_write hwritten)
        · cases h

/-- **After a save that does not fail, the theme file holds the content.** -/
theorem read_saveAmid {fault : Option Fault}
    (h : (t.saveAmid path tag content fault).1 = none) :
    (t.saveAmid path tag content fault).2.read path = some content := by
  cases fault with
  | some f => cases h
  | none =>
    dsimp only [saveAmid] at h ⊢
    unfold saveTheme at h ⊢
    split at h
    · cases h
    · next made hmade =>
      split at h
      · cases h
      · next written hwritten =>
        split at h
        · cases h
        · next moved hmoved =>
          exact read_rename (read_write hwritten) hmoved

end Files.Tree

end AssetSearch
