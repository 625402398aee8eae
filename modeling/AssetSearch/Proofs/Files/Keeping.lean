/-
# What stays in a tree

Directories that are made and files that are written leave all other files as they are, and no
directory goes away.  So a path that leads somewhere goes on leading there.  One that does not can
come to lead to a file that was there before only by a step up out of a directory that was made.

Key definitions: `Tree.Rooted`, `Tree.Keeps`, `Tree.Direct`.  Key statements: `keeps_make`,
`enter_makeDirectories`, `Keeps.read_of_read`, `Keeps.read_eq`.
-/
import AssetSearch.Files.Tree

namespace AssetSearch.Files.Tree

variable {t t' t'' : Tree}

/-! ## Entries -/

/-- Whatever stands in a tree stands in a directory. -/
def Rooted (t : Tree) : Prop :=
  ∀ name here, t.find? (name :: here) ≠ none → t.find? here = some .directory

theorem Rooted.above (ht : t.Rooted) {here : Place} (names : List String)
    (h : t.find? (names ++ here) = some .directory) : t.find? here = some .directory := by
  induction names with
  | nil => exact h
  | cons name names ih =>
    refine ih (ht name _ ?_)
    rw [← List.cons_append, h]
    simp

theorem ne_nil_of_not_directory {place : Place} (h : t.find? place ≠ some .directory) :
    place ≠ [] := by
  rintro rfl
  exact h rfl

/-! ## Steps -/

theorem enter_down (t : Tree) (here : Place) {name : String} (hname : name ≠ "..")
    (rest : List String) :
    t.enter here (name :: rest) =
      if t.find? (name :: here) = some .directory then t.enter (name :: here) rest else none := by
  rw [enter]
  exact hname

theorem enter_append (t : Tree) (here : Place) (steps more : List String) :
    t.enter here (steps ++ more) = (t.enter here steps).bind fun there => t.enter there more := by
  induction steps generalizing here with
  | nil => rfl
  | cons name rest ih =>
    rw [List.cons_append]
    by_cases hup : name = ".."
    · subst hup
      exact ih here.tail
    · rw [enter_down t here hup, enter_down t here hup, ih]
      split <;> rfl

/-- Steps that only go down lead to the place that they spell. -/
theorem eq_of_enter {here there : Place} {steps : List String} (hdown : ".." ∉ steps)
    (h : t.enter here steps = some there) : there = steps.reverse ++ here := by
  induction steps generalizing here with
  | nil => exact (Option.some.inj h).symm
  | cons name rest ih =>
    obtain ⟨hname, hrest⟩ := List.ne_and_not_mem_of_not_mem_cons hdown
    rw [enter_down t here (Ne.symm hname)] at h
    split at h
    · rw [ih hrest h]
      simp
    · cases h

/-- Where a directory stands, steps that only go down lead. -/
theorem Rooted.enter_of_directory (ht : t.Rooted) {here : Place} {steps : List String}
    (hdown : ".." ∉ steps) (h : t.find? (steps.reverse ++ here) = some .directory) :
    t.enter here steps = some (steps.reverse ++ here) := by
  induction steps generalizing here with
  | nil => rfl
  | cons name rest ih =>
    obtain ⟨hname, hrest⟩ := List.ne_and_not_mem_of_not_mem_cons hdown
    have hbelow : t.find? (rest.reverse ++ name :: here) = some .directory := by simpa using h
    rw [enter_down t here (Ne.symm hname), if_pos (ht.above _ hbelow), ih hrest hbelow]
    simp

/-! ## What is kept -/

/-- From one tree to another all directories stay, and so do the files in all places but some. -/
structure Keeps (apart : Place → Prop) (t t' : Tree) : Prop where
  directories : ∀ place, t.find? place = some .directory → t'.find? place = some .directory
  files : ∀ place, ¬ apart place → ∀ content,
    t'.find? place = some (.file content) ↔ t.find? place = some (.file content)

namespace Keeps

variable {apart other : Place → Prop}

protected theorem refl (apart : Place → Prop) (t : Tree) : Keeps apart t t :=
  ⟨fun _ h => h, fun _ _ _ => Iff.rfl⟩

theorem trans (h : Keeps apart t t') (h' : Keeps apart t' t'') : Keeps apart t t'' where
  directories place hplace := h'.directories place (h.directories place hplace)
  files place hplace content := (h'.files place hplace content).trans (h.files place hplace content)

theorem imp (h : Keeps apart t t') (himp : ∀ place, apart place → other place) :
    Keeps other t t' where
  directories := h.directories
  files place hplace := h.files place fun hapart => hplace (himp place hapart)

theorem put_directory (apart : Place → Prop) {place : Place} (h : t.find? place = none) :
    Keeps apart t (t.put place .directory) := by
  have hplace : place ≠ [] := ne_nil_of_not_directory (t := t) (by simp [h])
  refine ⟨fun other hother => ?_, fun other _ content => ?_⟩
  · rw [find?_put t place other _ hplace]
    split
    · rfl
    · exact hother
  · rw [find?_put t place other _ hplace]
    split
    · next same => simp [same, h]
    · exact Iff.rfl

theorem put_file {place : Place} (h : t.find? place ≠ some .directory) (hapart : apart place)
    (content : List UInt8) : Keeps apart t (t.put place (.file content)) := by
  have hplace : place ≠ [] := ne_nil_of_not_directory h
  refine ⟨fun other hother => ?_, fun other hother content => ?_⟩
  · rw [find?_put t place other _ hplace, if_neg ?_]
    · exact hother
    · rintro rfl
      exact h hother
  · rw [find?_put t place other _ hplace, if_neg ?_]
    rintro rfl
    exact hother hapart

/-- Steps that lead somewhere go on leading there. -/
theorem enter (h : Keeps apart t t') {here there : Place} {steps : List String}
    (hsteps : t.enter here steps = some there) : t'.enter here steps = some there := by
  induction steps generalizing here with
  | nil => exact hsteps
  | cons name rest ih =>
    by_cases hup : name = ".."
    · subst hup
      exact ih hsteps
    · rw [enter_down t here hup] at hsteps
      rw [enter_down t' here hup]
      split at hsteps
      · next hdirectory =>
        rw [if_pos (h.directories _ hdirectory)]
        exact ih hsteps
      · cases hsteps

end Keeps

theorem make_down (t : Tree) (here : Place) {name : String} (hname : name ≠ "..")
    (rest : List String) :
    t.make here (name :: rest) =
      match t.find? (name :: here) with
      | some .directory => t.make (name :: here) rest
      | some (.file _) => (false, t)
      | none =>
        if isName name then (t.put (name :: here) .directory).make (name :: here) rest
        else (false, t) :=
  make.eq_3 t here name rest hname

/-- Directories that are made leave all files as they are, also when one of them cannot be made. -/
theorem keeps_make (apart : Place → Prop) (t : Tree) (here : Place) (steps : List String) :
    Keeps apart t (t.make here steps).2 := by
  induction steps generalizing t here with
  | nil => exact .refl apart t
  | cons name rest ih =>
    by_cases hup : name = ".."
    · subst hup
      exact ih t here.tail
    · rw [make_down t here hup]
      split
      · exact ih t _
      · exact .refl apart t
      · next hnone =>
        split
        · exact (Keeps.put_directory apart hnone).trans (ih _ _)
        · exact .refl apart t

theorem keeps_making (apart : Place → Prop) {path : String} {made : Bool}
    (h : t.making path = (made, t')) : Keeps apart t t' := by
  unfold making at h
  split at h
  · have hkeeps := keeps_make apart t [] (Path.steps path)
    rwa [h] at hkeeps
  · obtain rfl := (Prod.mk.inj h).2
    exact .refl apart t

/-- Steps for which all directories were made can be followed. -/
theorem enter_make {here : Place} {steps : List String} (h : (t.make here steps).1 = true) :
    ∃ there, (t.make here steps).2.enter here steps = some there := by
  induction steps generalizing t here with
  | nil => exact ⟨here, rfl⟩
  | cons name rest ih =>
    by_cases hup : name = ".."
    · subst hup
      exact ih h
    · rw [enter_down _ here hup]
      rw [make_down t here hup] at h ⊢
      split at h
      · next hdirectory =>
        -- it was there before, and is still there when the directories below it are made
        have hstays := (keeps_make (fun _ => False) t (name :: here) rest).directories _ hdirectory
        rw [if_pos hstays]
        exact ih h
      · cases h
      · next hnone =>
        split at h
        · next hname =>
          have hput : (t.put (name :: here) .directory).find? (name :: here) = some .directory := by
            rw [find?_put t _ _ _ (List.cons_ne_nil name here), if_pos rfl]
          have hstays := (keeps_make (fun _ => False) (t.put (name :: here) .directory)
            (name :: here) rest).directories _ hput
          rw [if_pos hname, if_pos hstays]
          exact ih h
        · cases h

/-- **Directories that were made can be entered.** -/
theorem enter_makeDirectories {path : String} (h : t.makeDirectories path = some t') :
    ∃ there, t'.enter [] (Path.steps path) = some there := by
  have hmaking : t.making path = (true, t') := by
    unfold makeDirectories at h
    rcases hpair : t.making path with ⟨_ | _, after⟩
    · rw [hpair] at h
      cases h
    · rw [hpair] at h
      rw [Option.some.inj h]
  unfold making at hmaking
  split at hmaking
  · have henter := enter_make (congrArg Prod.fst hmaking)
    rwa [hmaking] at henter
  · cases hmaking

/-! ## Reading -/

theorem read_eq_some_iff {path : String} {content : List UInt8} :
    t.read path = some content ↔
      ∃ name here, fileName? path = some name ∧
        t.enter [] (Path.steps (Path.parent path)) = some here ∧
        t.find? (name :: here) = some (.file content) := by
  unfold read
  constructor
  · intro h
    split at h
    · cases h
    · next place hplace =>
      obtain ⟨name, here, hname, henter, rfl, -⟩ := filePlace?_eq_some_iff.1 hplace
      split at h
      · next found hfound => exact ⟨name, here, hname, henter, by rw [hfound, Option.some.inj h]⟩
      · cases h
  · rintro ⟨name, here, hname, henter, hfile⟩
    have hplace : t.filePlace? path = some (name :: here) :=
      filePlace?_eq_some_iff.2 ⟨name, here, hname, henter, rfl, by simp [hfile]⟩
    simp [hplace, hfile]

/-- A path does not go up out of a directory that is missing. -/
def Direct (t : Tree) (path : String) : Prop :=
  ∃ found missing here, Path.steps (Path.parent path) = found ++ missing ∧
    t.enter [] found = some here ∧ ".." ∉ missing

namespace Keeps

variable {apart : Place → Prop} {path : String}

/-- What can be read can be read afterwards, unless it may have changed. -/
theorem read_of_read (h : Keeps apart t t')
    (hapart : ∀ name here, fileName? path = some name → ¬ apart (name :: here))
    {content : List UInt8} (hread : t.read path = some content) : t'.read path = some content := by
  obtain ⟨name, here, hname, henter, hfile⟩ := read_eq_some_iff.1 hread
  exact read_eq_some_iff.2
    ⟨name, here, hname, h.enter henter, (h.files _ (hapart name here hname) content).2 hfile⟩

/-- **Reading finds what it found before**, if the path does not go up out of a directory that was
missing. -/
theorem read_eq (h : Keeps apart t t') (ht : t.Rooted) (hpath : t.Direct path)
    (hapart : ∀ name here, fileName? path = some name → ¬ apart (name :: here)) :
    t'.read path = t.read path := by
  refine Option.ext fun content => ⟨fun hread => ?_, h.read_of_read hapart⟩
  obtain ⟨name, there, hname, henter, hfile⟩ := read_eq_some_iff.1 hread
  obtain ⟨found, missing, here, hsteps, hfound, hdown⟩ := hpath
  have hbefore : t.find? (name :: there) = some (.file content) :=
    (h.files _ (hapart name there hname) content).1 hfile
  -- the file was there before, and so were the directories on the way to it
  have hdirectory : t.find? there = some .directory := ht name there (by simp [hbefore])
  rw [hsteps, enter_append, h.enter hfound] at henter
  obtain rfl := eq_of_enter hdown henter
  refine read_eq_some_iff.2 ⟨name, _, hname, ?_, hbefore⟩
  rw [hsteps, enter_append, hfound]
  exact ht.enter_of_directory hdown hdirectory

end Keeps

end AssetSearch.Files.Tree
