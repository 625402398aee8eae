/-
# Trees of files

The files and directories below one root, and what can be done with them by their paths: a file can
be read, written, removed and renamed, and directories can be made.  Each of these fails when a
step of the path does not lead to a directory, or when the path does not end in a name for a file.
Directories are made one by one, and those that were made stay when a later one cannot be.

Key definitions: `Files.Tree`, `Tree.enter`, `Tree.making`, `Tree.makeDirectories`, `Tree.read`,
`Tree.write`, `Tree.remove` and `Tree.rename`.

Main statement: `read_write` (what was written can be read).
-/
import AssetSearch.Files.Path

namespace AssetSearch.Files

/-- What stands at a place. -/
inductive Entry where
  | file (content : List UInt8)
  | directory
  deriving DecidableEq

/-- A place in a tree: the names on the way from the root, the last one first. -/
abbrev Place : Type :=
  List String

/-- The entries of a tree by their places.  The root is a directory and has no entry. -/
structure Tree where
  entries : List (Place × Entry)
  deriving DecidableEq

namespace Tree

/-! ## Entries -/

/-- The tree without files. -/
def empty : Tree :=
  ⟨[]⟩

/-- What stands at a place. -/
def find? (t : Tree) : Place → Option Entry
  | [] => some .directory
  | place => t.entries.lookup place

/-- Puts an entry in the place of what was there. -/
def put (t : Tree) (place : Place) (e : Entry) : Tree :=
  ⟨(place, e) :: t.entries.filter fun x => x.1 != place⟩

/-- Takes away what stands at a place. -/
def erase (t : Tree) (place : Place) : Tree :=
  ⟨t.entries.filter fun x => x.1 != place⟩

/-! ## Names and paths -/

/-- Whether a text can name an entry: at most 255 bytes, and no null character among them. -/
def isName (name : String) : Bool :=
  name.utf8ByteSize ≤ 255 && !name.toList.contains '\x00'

/-- Whether a path is short enough to be followed. -/
def isShort (path : String) : Bool :=
  path.utf8ByteSize ≤ 4095

/-- The directory that steps lead to. -/
def enter (t : Tree) (place : Place) : List String → Option Place
  | [] => some place
  | ".." :: rest => t.enter place.tail rest
  | name :: rest =>
    if t.find? (name :: place) = some .directory then t.enter (name :: place) rest else none

/-- Makes the directories that steps lead to, as far as they are missing: whether they are all there
then, and the tree with those that were made. -/
def make (t : Tree) (place : Place) : List String → Bool × Tree
  | [] => (true, t)
  | ".." :: rest => t.make place.tail rest
  | name :: rest =>
    match t.find? (name :: place) with
    | some .directory => t.make (name :: place) rest
    | some (.file _) => (false, t)
    | none =>
      if isName name then (t.put (name :: place) .directory).make (name :: place) rest
      else (false, t)

/-- Makes the directory at a path and those above it, as far as they are missing.  A path that
cannot be followed at all makes none. -/
def making (t : Tree) (path : String) : Bool × Tree :=
  if isShort path && !path.toList.contains '\x00' then t.make [] (Path.steps path) else (false, t)

/-- The tree with the directory at a path, if it could be made. -/
def makeDirectories (t : Tree) (path : String) : Option Tree :=
  let (made, after) := t.making path
  if made then some after else none

/-- The name of the file that a path may name. -/
def fileName? (path : String) : Option String :=
  match Path.lastName? path with
  | none => none
  | some last =>
    if isShort path && Path.endsInStep path && isName (String.ofList last) then
      some (String.ofList last)
    else none

/-- The place of the file that a path names, whether or not there is one. -/
def filePlace? (t : Tree) (path : String) : Option Place :=
  match fileName? path with
  | none => none
  | some name =>
    match t.enter [] (Path.steps (Path.parent path)) with
    | none => none
    | some directory =>
      if t.find? (name :: directory) = some .directory then none else some (name :: directory)

/-! ## Files -/

/-- The content of a file. -/
def read (t : Tree) (path : String) : Option (List UInt8) :=
  match t.filePlace? path with
  | none => none
  | some place =>
    match t.find? place with
    | some (.file content) => some content
    | _ => none

/-- Writes a file, in place of the one that was there. -/
def write (t : Tree) (path : String) (content : List UInt8) : Option Tree :=
  (t.filePlace? path).map fun place => t.put place (.file content)

/-- Removes a file. -/
def remove (t : Tree) (path : String) : Option Tree :=
  match t.read path with
  | none => none
  | some _ => (t.filePlace? path).map t.erase

/-- Moves a file, in place of the one that was there. -/
def rename (t : Tree) (source target : String) : Option Tree :=
  match t.read source with
  | none => none
  | some content =>
    match t.filePlace? target with
    | none => none
    | some _ =>
      match t.remove source with
      | none => none
      | some rest => rest.write target content

/-! ## What reading finds -/

theorem lookup_filter (l : List (Place × Entry)) (place other : Place) (h : other ≠ place) :
    (l.filter fun x => x.1 != place).lookup other = l.lookup other := by
  induction l with
  | nil => rfl
  | cons x l ih =>
    obtain ⟨p, e⟩ := x
    by_cases hp : p = place
    · have : (other == p) = false := by simpa [hp] using h
      simp only [hp, bne_self_eq_false, Bool.false_eq_true, not_false_eq_true,
        List.filter_cons_of_neg, ih, List.lookup_cons, hp ▸ this]
    · have : (p != place) = true := by simpa using hp
      simp only [this, List.filter_cons_of_pos, List.lookup_cons, ih]

theorem find?_put (t : Tree) (place other : Place) (e : Entry) (h : place ≠ []) :
    (t.put place e).find? other = if other = place then some e else t.find? other := by
  cases other with
  | nil => simp [find?, Ne.symm h]
  | cons name rest =>
    by_cases same : name :: rest = place
    · simp [find?, put, same]
    · have : (name :: rest == place) = false := by simpa using same
      simp only [find?, put, List.lookup_cons, this, same, if_false, lookup_filter _ _ _ same]

/-- A file changes nothing about where steps lead. -/
theorem enter_put_file (t : Tree) (place here : Place) (steps : List String) (content : List UInt8)
    (h : place ≠ []) (notDirectory : t.find? place ≠ some .directory) :
    (t.put place (.file content)).enter here steps = t.enter here steps := by
  induction steps generalizing here with
  | nil => rfl
  | cons name rest ih =>
    unfold enter
    split
    · rfl
    · next heq => cases heq; exact ih _
    · next heq =>
      cases heq
      rw [find?_put t place _ _ h]
      split
      · next same => simp [same, notDirectory]
      · simp [ih]

theorem filePlace?_eq_some_iff {t : Tree} {path : String} {place : Place} :
    t.filePlace? path = some place ↔
      ∃ name directory, fileName? path = some name ∧
        t.enter [] (Path.steps (Path.parent path)) = some directory ∧
        place = name :: directory ∧ t.find? place ≠ some .directory := by
  unfold filePlace?
  cases fileName? path with
  | none => simp
  | some name =>
    cases t.enter [] (Path.steps (Path.parent path)) with
    | none => simp
    | some directory =>
      by_cases h : t.find? (name :: directory) = some .directory
      · simp only [h, if_true, Option.some.injEq, exists_and_left, ne_eq]
        constructor
        · intro wrong; contradiction
        · rintro ⟨_, rfl, _, rfl, rfl, free⟩; exact absurd h free
      · simp only [h, if_false, Option.some.injEq]
        constructor
        · rintro rfl; exact ⟨name, directory, rfl, rfl, rfl, h⟩
        · rintro ⟨_, _, rfl, rfl, rfl, _⟩; rfl

/-- A file that is written leaves the place that its path names where it was. -/
theorem filePlace?_put_file {t : Tree} {path : String} {place : Place} (content : List UInt8)
    (h : t.filePlace? path = some place) :
    (t.put place (.file content)).filePlace? path = some place := by
  obtain ⟨name, directory, named, entered, rfl, free⟩ := filePlace?_eq_some_iff.1 h
  refine filePlace?_eq_some_iff.2 ⟨name, directory, named, ?_, rfl, ?_⟩
  · rw [enter_put_file t _ _ _ content (by simp) free, entered]
  · simp [find?_put]

/-- What was written can be read. -/
theorem read_write {t after : Tree} {path : String} {content : List UInt8}
    (h : t.write path content = some after) : after.read path = some content := by
  unfold write at h
  obtain ⟨place, found, rfl⟩ := Option.map_eq_some_iff.1 h
  have same := filePlace?_put_file content found
  obtain ⟨_, _, _, _, rfl, _⟩ := filePlace?_eq_some_iff.1 found
  simp [read, same, find?_put]

end Tree

end AssetSearch.Files
