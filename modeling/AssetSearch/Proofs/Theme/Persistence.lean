/-
# The theme in use and the theme on disk

Runs of a store whose saves may fail at every step.  The theme in use and the one that watchers see
is always the one asked for last.  The theme that a new store would load is the one saved last: a
save that fails leaves the theme file as it was.

Key definitions: `Theme.Attempt`, `ThemeStore.attempt`, `Theme.Session`, `Session.Sound`.  Key
statements: `ThemeStore.attempt_set`, `ThemeStore.attempt_toggle`, `Session.Sound.step`,
`Session.theme_on_failing_disk`.
-/
import AssetSearch.Proofs.Theme.Saves

namespace AssetSearch

open Files (Tree Place)

namespace Theme

/-! ## Attempts -/

/-- What is asked of a store. -/
inductive Wish where
  | set (theme : Theme)
  | toggle

/-- The theme that is asked for while another one is in use. -/
def Wish.theme (now : Theme) : Wish → Theme
  | set theme => theme
  | toggle => now.toggled

/-- A wish, and how its save goes. -/
structure Attempt where
  wish : Wish
  fault : Option Fault
  /-- What the system reports when a step fails. -/
  message : String

/-- The theme asked for last, or the first one. -/
def lastAsked (first : Theme) (as : List Attempt) : Theme :=
  as.foldl (fun now a => a.wish.theme now) first

end Theme

namespace ThemeStore

open Theme (Attempt)

variable {s : ThemeStore} {t : Tree} {path tag : String} {a : Attempt}

/-- Changes the theme and saves it; also which theme that is. -/
def attempt (s : ThemeStore) (t : Tree) (tag : String) (a : Attempt) :
    Outcome Theme × ThemeStore × Tree :=
  let theme := a.wish.theme s.theme
  let (failed, after) :=
    match s.path with
    | none => (none, t)
    | some path => t.saveAmid path tag theme.fileBytes a.fault
  let (outcome, s, _) :=
    s.set theme (s.diskIn t tag) (failed.map fun step => ⟨step, a.message, 0⟩) tag
  (outcome.map fun _ => theme, s, after)

/-- Without a fault this is setting the theme in a tree. -/
theorem attempt_set (s : ThemeStore) (t : Tree) (tag message : String) (theme : Theme) :
    s.attempt t tag ⟨.set theme, none, message⟩
      = ((s.setIn theme t message tag).1.map fun _ => theme, (s.setIn theme t message tag).2) := by
  unfold attempt setIn
  cases s.path <;> dsimp only [Theme.Wish.theme, Tree.saveAmid]

/-- Without a fault this is toggling the theme in a tree. -/
theorem attempt_toggle (s : ThemeStore) (t : Tree) (tag message : String) :
    s.attempt t tag ⟨.toggle, none, message⟩ = s.toggleIn t message tag := by
  unfold attempt toggleIn setIn
  cases s.path <;> dsimp only [Theme.Wish.theme, Tree.saveAmid]

@[simp] theorem adopt_theme (s : ThemeStore) (theme : Theme) : (s.adopt theme).theme = theme := by
  unfold adopt
  split
  · assumption
  · rfl

@[simp] theorem adopt_path (s : ThemeStore) (theme : Theme) : (s.adopt theme).path = s.path := by
  unfold adopt
  split <;> rfl

theorem adopt_watched (hwatched : s.updates.value = s.theme) (theme : Theme) :
    (s.adopt theme).updates.value = theme := by
  unfold adopt
  split
  · next hsame => exact hwatched.trans hsame
  · rfl

/-- The theme changes in any case, and is given back if no step of the save failed. -/
theorem attempt_cases (hpath : s.path = some path) (t : Tree) (tag : String) (a : Attempt) :
    let theme := a.wish.theme s.theme
    let save := t.saveAmid path tag theme.fileBytes a.fault
    (save.1 = none ∧ s.attempt t tag a = (.ok theme, s.adopt theme, save.2)) ∨
      ∃ step e, save.1 = some step ∧ s.attempt t tag a = (.error e, s.adopt theme, save.2) := by
  unfold attempt set
  rw [hpath]
  dsimp only
  rcases t.saveAmid path tag (a.wish.theme s.theme).fileBytes a.fault with ⟨_ | step, after⟩
  · exact .inl ⟨rfl, rfl⟩
  · exact .inr ⟨step, _, rfl, rfl⟩

end ThemeStore

/-! ## Runs -/

namespace Theme

/-- The content that is written for a theme is read as that theme. -/
theorem ofFile_fileBytes (theme : Theme) : ofFile (some theme.fileBytes) = theme := by
  cases theme <;> decide +kernel

/-- Whatever a file holds, the theme in it is the default one or the one that its text says. -/
theorem ofFile_cases (content : Option (List UInt8)) :
    ofFile content = .default ∨ ∃ text, content.bind Json.textOf? = some text ∧
      Json.decodeText (fileReader.read "ThemeFile") text = .ok (ofFile content) := by
  unfold ofFile
  split
  · exact .inl rfl
  · next text htext =>
    split
    · next theme htheme => exact .inr ⟨text, htext, htheme⟩
    · exact .inl rfl

/-- A store in use, the tree with its file, and the theme that was saved last, if one was: that of
the last attempt that did not fail. -/
structure Session where
  store : ThemeStore
  tree : Tree
  saved : Option Theme

namespace Session

/-- A store that was just loaded. -/
def start (t : Tree) (path : String) : Session :=
  ⟨.loadFrom t path, t, none⟩

/-- One attempt. -/
def step (tag : String) (x : Session) (a : Attempt) : Session :=
  let (outcome, store, tree) := x.store.attempt x.tree tag a
  ⟨store, tree, outcome.toOption.or x.saved⟩

/-- Some attempts, one after the other. -/
def run (tag : String) (as : List Attempt) (x : Session) : Session :=
  as.foldl (step tag) x

/-- A place that has the name of the temporary file. -/
def Aside (path tag : String) (place : Place) : Prop :=
  ∃ name here, Tree.fileName? (temporaryOf path tag) = some name ∧ place = name :: here

theorem not_aside {path tag name : String} (htag : '/' ∉ tag.toList)
    (h : Tree.fileName? path = some name) (here : Place) : ¬ Aside path tag (name :: here) := by
  rintro ⟨name', here', htemporary, heq⟩
  obtain ⟨rfl, -⟩ := List.cons.inj heq
  exact fileName?_temporaryOf_ne htag h htemporary

/-- What holds after every attempt: the theme in use is the one asked for, and the tree is as it was
but for the temporary file, until a theme is saved; from then on the file holds the theme saved
last. -/
structure Sound (t : Tree) (path tag : String) (asked : Theme) (x : Session) : Prop where
  stored : x.store.path = some path
  current : x.store.theme = asked
  watched : x.store.updates.value = asked
  unsaved : x.saved = none → Tree.Keeps (Aside path tag) t x.tree
  saved : ∀ theme, x.saved = some theme → x.tree.read path = some theme.fileBytes

theorem sound_start (t : Tree) (path tag : String) :
    Sound t path tag (ThemeStore.loadFrom t path).theme (start t path) :=
  ⟨rfl, rfl, rfl, fun _ => .refl _ t, fun _ h => by cases h⟩

variable {t : Tree} {path tag : String} {asked : Theme} {x : Session}

/-- An attempt that fails touches no file but the temporary one. -/
theorem Sound.keeps_of_error (hx : Sound t path tag asked x) {a : Attempt} {e : Failure}
    (h : (x.store.attempt x.tree tag a).1 = .error e) :
    Tree.Keeps (fun place => (x.store.attempt x.tree tag a).2.2.filePlace? (temporaryOf path tag)
      = some place) x.tree (x.store.attempt x.tree tag a).2.2 := by
  rcases ThemeStore.attempt_cases hx.stored x.tree tag a with
    ⟨-, hattempt⟩ | ⟨_, _, hstep, hattempt⟩
  · rw [hattempt] at h
    cases h
  · rw [hattempt]
    exact Tree.keeps_saveAmid hstep

theorem aside_of_filePlace? {place : Place} (h : t.filePlace? (temporaryOf path tag) = some place) :
    Aside path tag place := by
  obtain ⟨name, here, hname, -, rfl, -⟩ := Tree.filePlace?_eq_some_iff.1 h
  exact ⟨name, here, hname, rfl⟩

/-- **One attempt.** -/
theorem Sound.step (hx : Sound t path tag asked x) (htag : '/' ∉ tag.toList) (a : Attempt) :
    Sound t path tag (a.wish.theme asked) (x.step tag a) := by
  obtain rfl := hx.current
  have hstored : (x.store.adopt (a.wish.theme x.store.theme)).path = some path := by
    rw [ThemeStore.adopt_path, hx.stored]
  have hwatched := ThemeStore.adopt_watched hx.watched (a.wish.theme x.store.theme)
  unfold Session.step
  rcases ThemeStore.attempt_cases hx.stored x.tree tag a with
    ⟨hsave, hattempt⟩ | ⟨_, _, hstep, hattempt⟩
  · rw [hattempt]
    refine ⟨hstored, ThemeStore.adopt_theme _ _, hwatched, (fun h => by cases h), ?_⟩
    rintro _ ⟨⟩
    exact Tree.read_saveAmid hsave
  · rw [hattempt]
    have hkeeps := (Tree.keeps_saveAmid hstep).imp fun _ h => aside_of_filePlace? h
    refine ⟨hstored, ThemeStore.adopt_theme _ _, hwatched, fun h => ?_, fun theme h => ?_⟩
    · exact (hx.unsaved h).trans hkeeps
    · refine hkeeps.read_of_read ?_ (hx.saved theme h)
      intro name here hname
      exact not_aside htag hname here

theorem Sound.run (hx : Sound t path tag asked x) (htag : '/' ∉ tag.toList) (as : List Attempt) :
    Sound t path tag (lastAsked asked as) (x.run tag as) := by
  induction as generalizing x asked with
  | nil => exact hx
  | cons a as ih => exact ih (hx.step htag a)

/-! ## The result -/

theorem slash_notMem_toString (n : Nat) : '/' ∉ (toString n).toList := by
  intro h
  have hdigits : (toString n).toList = Nat.toDigits 10 n := by simp
  rw [hdigits] at h
  have hdigit := Nat.isDigit_of_mem_toDigits (by decide) (by decide) h
  cases hdigit

/-- **The theme survives a failing disk.**  After every run of attempts in a process, whose number
tells its temporary files apart:

* the theme in use and the one that watchers see is the one asked for last;
* an attempt that fails touches no file but the temporary one, which is not the theme file, and
  reading the theme file gives what it gave before;
* a store that is loaded then has the theme saved last, or if none was, the theme that was loaded
  first.

Where the path goes up out of a directory that is missing at first, reading may find a file that was
not in reach before.  Whatever the file holds, a store can be loaded from it. -/
theorem theme_on_failing_disk (t : Tree) (ht : t.Rooted) (path : String) (process : Nat)
    (as : List Attempt) :
    let tag := toString process
    let first := (ThemeStore.loadFrom t path).theme
    let x := (start t path).run tag as
    (x.store.theme = lastAsked first as ∧ x.store.updates.value = lastAsked first as) ∧
    (∀ a e, (x.store.attempt x.tree tag a).1 = .error e →
      let after := (x.store.attempt x.tree tag a).2.2
      (∀ place, after.filePlace? path = some place →
        after.filePlace? (temporaryOf path tag) ≠ some place) ∧
      (∀ place, after.filePlace? (temporaryOf path tag) ≠ some place → ∀ content,
        after.find? place = some (.file content) ↔ x.tree.find? place = some (.file content)) ∧
      (t.Direct path → after.read path = x.tree.read path)) ∧
    (∀ theme, x.saved = some theme → (ThemeStore.loadFrom x.tree path).theme = theme) ∧
    (x.saved = none → t.Direct path → (ThemeStore.loadFrom x.tree path).theme = first) ∧
    ∀ content, (ThemeStore.load path content).theme = .default ∨ ∃ text,
      content.bind Json.textOf? = some text ∧
        Json.decodeText (fileReader.read "ThemeFile") text
          = .ok (ThemeStore.load path content).theme := by
  intro tag first x
  have htag : '/' ∉ tag.toList := slash_notMem_toString process
  have hx : Sound t path tag (lastAsked first as) x := (sound_start t path tag).run htag as
  have hnotAside : ∀ name here, Tree.fileName? path = some name → ¬ Aside path tag (name :: here) :=
    fun name here hname => not_aside htag hname here
  refine ⟨⟨hx.current, hx.watched⟩, ?_, ?_, ?_, ?_⟩
  · intro a e hfailed after
    have hkeeps := hx.keeps_of_error hfailed
    refine ⟨?_, hkeeps.files, ?_⟩
    · intro place hplace htemporary
      obtain ⟨name, here, hname, -, rfl, -⟩ := Tree.filePlace?_eq_some_iff.1 hplace
      exact hnotAside name here hname (aside_of_filePlace? htemporary)
    · intro hpath
      have hwide := hkeeps.imp fun _ h => aside_of_filePlace? h
      cases hsaved : x.saved with
      | none =>
        have hbefore := hx.unsaved hsaved
        rw [(hbefore.trans hwide).read_eq ht hpath hnotAside, hbefore.read_eq ht hpath hnotAside]
      | some theme =>
        have hread := hx.saved theme hsaved
        rw [hwide.read_of_read hnotAside hread, hread]
  · intro theme hsaved
    rw [ThemeStore.loadFrom, hx.saved theme hsaved]
    exact ofFile_fileBytes theme
  · intro hsaved hpath
    have hread := (hx.unsaved hsaved).read_eq ht hpath hnotAside
    dsimp only [first]
    rw [ThemeStore.loadFrom, ThemeStore.loadFrom, hread]
  · exact ofFile_cases

/-- A tree with a theme file in it, and nothing else. -/
def single : Tree :=
  ⟨[(["t.json"], .file light.fileBytes)]⟩

theorem rooted_single : single.Rooted := by
  intro name here hfound
  by_cases hplace : name :: here = ["t.json"]
  · obtain ⟨-, rfl⟩ := List.cons.inj hplace
    rfl
  · have hother : (name :: here == ["t.json"]) = false := by simpa using hplace
    have hnone : single.find? (name :: here) = none := by
      simp only [single, Tree.find?, List.lookup_cons, hother, List.lookup_nil]
    exact absurd hnone hfound

/-- The first save stops while it writes, so the old theme is loaded; of the next two saves one goes
well, and its theme is loaded although another one is in use. -/
theorem theme_on_failing_disk_stopped :
    let stopped : Attempt := ⟨.set .dark, some ⟨.write, 3⟩, "No space left on device"⟩
    let saved : Attempt := ⟨.set .system, none, ""⟩
    let unmoved : Attempt := ⟨.toggle, some ⟨.rename, 0⟩, "Read-only file system"⟩
    let x := (start single "t.json").run (toString 1) [stopped]
    let y := (start single "t.json").run (toString 1) [stopped, saved, unmoved]
    single.Rooted ∧ x.store.theme = .dark ∧ (ThemeStore.loadFrom x.tree "t.json").theme = .light ∧
      y.store.theme = .light ∧ (ThemeStore.loadFrom y.tree "t.json").theme = .system := by
  intro stopped saved unmoved x y
  have hx := theme_on_failing_disk single rooted_single "t.json" 1 [stopped]
  have hy := theme_on_failing_disk single rooted_single "t.json" 1 [stopped, saved, unmoved]
  have hfirst : (ThemeStore.loadFrom single "t.json").theme = .light := by decide +kernel
  have hdirect : single.Direct "t.json" := ⟨[], [], [], by decide +kernel, rfl, by simp⟩
  refine ⟨rooted_single, hx.1.1, ?_, hy.1.1, ?_⟩
  · rw [← hfirst]
    exact hx.2.2.2.1 (by decide +kernel) hdirect
  · exact hy.2.2.1 .system (by decide +kernel)

/-- A path that goes up out of a directory that is missing: the save makes that directory and then
fails, so no theme was saved, and yet the theme that is loaded has changed. -/
theorem loaded_changes_without_save :
    let full : Attempt := ⟨.set .system, some ⟨.createTemporary, 0⟩, "No space left on device"⟩
    let x := (start single "x/../t.json").run (toString 1) [full]
    single.Rooted ∧ (ThemeStore.loadFrom single "x/../t.json").theme = .dark ∧ x.saved = none ∧
      (ThemeStore.loadFrom x.tree "x/../t.json").theme = .light :=
  ⟨rooted_single, by decide +kernel, by decide +kernel, by decide +kernel⟩

end Session

end Theme

end AssetSearch
