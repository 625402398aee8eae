/-
# The name of the temporary file

The temporary file of a save is named after the theme file, with another extension.  That extension
has a dot in it, so the two names are never the same, and the one file never takes the place of the
other.

Key statements: `Path.lastStep_eq`, `Path.ne_splitExtension`, `Theme.fileName?_temporaryOf_ne`.
-/
import Mathlib.Data.List.TakeWhile
import AssetSearch.Files.Tree
import AssetSearch.Theme.Store

namespace AssetSearch

namespace Path

/-! ## The last step -/

theorem dropIdle_append {name : List Char} (hslash : '/' ∉ name) (hnil : name ≠ [])
    (hdot : name ≠ ['.']) (front : List Char) : dropIdle (name ++ front) = name ++ front := by
  unfold dropIdle
  split
  · next rest heq =>
    cases name with
    | nil => exact absurd rfl hnil
    | cons c name =>
      obtain ⟨rfl, -⟩ := List.cons.inj heq
      simp at hslash
  · next rest heq =>
    match name, heq with
    | [c], heq =>
      obtain ⟨rfl, -⟩ := List.cons.inj heq
      exact absurd rfl hdot
    | c :: d :: name, heq =>
      obtain ⟨-, htail⟩ := List.cons.inj heq
      obtain ⟨rfl, -⟩ := List.cons.inj htail
      simp at hslash
  · rfl

/-- The last step of a path is what stands behind the last slash, unless that is nothing or a
dot. -/
theorem lastStep_eq {front name : List Char} (hfront : ∀ c, front.getLast? = some c → c = '/')
    (hslash : '/' ∉ name) (hnil : name ≠ []) (hdot : name ≠ ['.']) :
    lastStep (String.ofList (front ++ name)) = name := by
  have hbody : (body (String.ofList (front ++ name))).reverse = name.reverse ++ front.reverse := by
    rw [body, String.toList_ofList, List.reverse_reverse, List.reverse_append]
    refine dropIdle_append (by simpa using hslash) (by simpa using hnil) ?_ _
    intro hreverse
    exact hdot (by simpa using congrArg List.reverse hreverse)
  have hrest : front.reverse.takeWhile (fun c => c != '/') = [] := by
    cases hreverse : front.reverse with
    | nil => rfl
    | cons c rest =>
      have hc : c = '/' := hfront c (by rw [List.getLast?_eq_head?_reverse, hreverse]; rfl)
      simp [hc]
  rw [lastStep, hbody, List.takeWhile_append_of_pos, hrest]
  · simp
  · intro c hc
    have hmem : c ∈ name := by simpa using hc
    simpa using ne_of_mem_of_not_mem hmem hslash

theorem slash_notMem_lastStep (path : String) : '/' ∉ lastStep path := by
  intro h
  rw [lastStep, List.mem_reverse] at h
  simpa using List.mem_takeWhile_imp h

/-- What stands in front of the last step ends in a slash, if it is not empty. -/
theorem getLast?_beforeLast {path : String} {c : Char} (h : (beforeLast path).getLast? = some c) :
    c = '/' := by
  rw [beforeLast, List.getLast?_reverse] at h
  have hstop := List.head?_dropWhile_not (fun c : Char => c != '/') (body path).reverse
  rw [h] at hstop
  simpa using hstop

/-! ## Extensions -/

theorem dropWhile_drop_ne {c : Char} {front : List Char} (h : c ∈ front) (rest : List Char) :
    ((front ++ c :: rest).dropWhile fun d => d != c).drop 1 ≠ rest := by
  induction front with
  | nil => cases h
  | cons d front ih =>
    by_cases hd : d = c
    · subst hd
      intro heq
      have hlength := congrArg List.length heq
      simp at hlength
      omega
    · have hmem : c ∈ front := (List.mem_cons.1 h).resolve_left (Ne.symm hd)
      simpa [List.dropWhile_cons, hd] using ih hmem

/-- A name is not its own stem with an extension that has a dot in it. -/
theorem ne_splitExtension {extension : List Char} (h : '.' ∈ extension) (name : List Char) :
    name ≠ (splitExtension name).1 ++ '.' :: extension := by
  unfold splitExtension
  dsimp only
  split
  · intro heq
    have hlength := congrArg List.length heq
    simp at hlength
  · intro heq
    have hreverse : name.reverse = extension.reverse ++ '.' ::
        (name.reverse.dropWhile fun c => c != '.').drop 1 := by
      have hcopy := congrArg List.reverse heq
      simpa using hcopy
    have hmem : '.' ∈ extension.reverse := by simpa using h
    exact dropWhile_drop_ne hmem ((name.reverse.dropWhile fun c => c != '.').drop 1)
      (by rw [← hreverse])

theorem splitExtension_prefix (name : List Char) : (splitExtension name).1 <+: name := by
  unfold splitExtension
  dsimp only
  split
  · exact List.prefix_refl name
  · rw [← List.reverse_suffix, List.reverse_reverse]
    exact (List.drop_suffix 1 _).trans (List.dropWhile_suffix _)

end Path

/-! ## The temporary file -/

namespace Theme

/-- A path for a file ends in its name. -/
theorem lastName?_of_fileName? {path name : String} (h : Files.Tree.fileName? path = some name) :
    Path.lastName? path = some name.toList := by
  unfold Files.Tree.fileName? at h
  split at h
  · cases h
  · next last hlast =>
    split at h
    · rw [← Option.some.inj h, String.toList_ofList, hlast]
    · cases h

theorem lastStep_of_lastName? {path : String} {name : List Char}
    (h : Path.lastName? path = some name) :
    Path.lastStep path = name ∧ name ≠ [] ∧ name ≠ ['.', '.'] := by
  unfold Path.lastName? at h
  dsimp only at h
  split at h
  · cases h
  · next hname =>
    obtain rfl := Option.some.inj h
    simpa using hname

/-- **The temporary file of a save has another name than the theme file.** -/
theorem fileName?_temporaryOf_ne {path tag name : String} (htag : '/' ∉ tag.toList)
    (h : Files.Tree.fileName? path = some name) :
    Files.Tree.fileName? (temporaryOf path tag) ≠ some name := by
  intro htemporary
  have hpath := lastName?_of_fileName? h
  obtain ⟨hlast, -, -⟩ := lastStep_of_lastName? hpath
  obtain ⟨hsame, -, hup⟩ := lastStep_of_lastName? (lastName?_of_fileName? htemporary)
  have hfront : ∀ c, (Path.beforeLast path).getLast? = some c → c = '/' :=
    fun c hc => Path.getLast?_beforeLast hc
  unfold temporaryOf Path.withExtension at hsame
  rw [hpath] at hsame
  dsimp only at hsame
  split at hsame
  · rw [Path.lastStep_eq hfront (by decide) (by decide) (by decide)] at hsame
    exact hup hsame.symm
  · let extension := "json.".toList ++ tag.toList ++ ".tmp".toList
    let stem := (Path.splitExtension name.toList).1
    have hname : String.ofList (Path.beforeLast path ++ stem) ++ "." ++ ("json." ++ tag ++ ".tmp")
        = String.ofList (Path.beforeLast path ++ (stem ++ '.' :: extension)) := by
      apply String.toList_inj.1
      simp [extension]
    have hstem : '/' ∉ stem := fun hmem =>
      Path.slash_notMem_lastStep path (hlast ▸ (Path.splitExtension_prefix _).subset hmem)
    have hslash : '/' ∉ stem ++ '.' :: extension := by simp [extension, hstem, htag]
    have hdot : stem ++ '.' :: extension ≠ ['.'] := by
      intro heq
      have hlength := congrArg List.length heq
      simp [extension] at hlength
      omega
    rw [hname, Path.lastStep_eq hfront hslash (by simp) hdot] at hsame
    exact Path.ne_splitExtension (by simp [extension]) name.toList hsame.symm

end Theme

end AssetSearch
