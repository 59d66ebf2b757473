/-
# What happens to a folder

Creating folders and opening files for writing only ever adds to a folder and changes single files: no
folder goes away or becomes a file, and no file goes away or becomes a folder.  So whatever a path leads
to, it still leads there later.

* `Grows.find` -- a path that leads to a file goes on leading there;
* `extends_createParents` -- creating folders touches no file;
* `openForWriting_eq_ok` -- opening touches one file, to which the path leads then.
-/
import Readout.Folder

namespace Readout.Folder

variable {f g h : Folder} {p q : Place} {path : String}

/-! ## 1. Growing -/

/-- A folder grows into another: folders stay folders, and files stay files. -/
structure Grows (f g : Folder) : Prop where
  folders : ∀ p, f.found? p = some .folder → g.found? p = some .folder
  files : ∀ p content, f.found? p = some (.file content) →
    ∃ content', g.found? p = some (.file content')

theorem Grows.refl (f : Folder) : f.Grows f :=
  ⟨fun _ h => h, fun _ content h => ⟨content, h⟩⟩

theorem Grows.trans (hfg : f.Grows g) (hgh : g.Grows h) : f.Grows h where
  folders p hp := hgh.folders p (hfg.folders p hp)
  files p content hp := by
    obtain ⟨content', hp'⟩ := hfg.files p content hp
    exact hgh.files p content' hp'

/-- Where no folder is, an entry can be put. -/
theorem found?_put {e : Entry} (hp : f.found? p ≠ some .folder) (q : Place) :
    (f.put p e).found? q = if q = p then some e else f.found? q := by
  have hplace : p.isAbove = false ∧ p ≠ Place.root := by
    constructor
    · cases habove : p.isAbove with
      | false => rfl
      | true => exact absurd (by simp [found?, habove]) hp
    · intro hroot
      exact hp (by simp [found?, hroot])
  split
  · rename_i hq
    rw [hq]
    exact found?_put_self hplace.1 hplace.2
  · rename_i hq
    exact found?_put_of_ne hq

theorem file?_eq_some_iff {content : Bytes} :
    f.file? p = some content ↔ f.found? p = some (.file content) := by
  unfold file?
  cases f.found? p with
  | none => simp
  | some e => cases e <;> simp

/-- A folder grows when a folder is put where nothing was. -/
theorem grows_put_folder (hp : f.found? p = none) : f.Grows (f.put p .folder) := by
  have hne : f.found? p ≠ some .folder := by
    rw [hp]
    exact fun h => by cases h
  constructor
  · intro q hq
    rw [found?_put hne]
    split
    · rfl
    · exact hq
  · intro q content hq
    have hother : q ≠ p := by
      rintro rfl
      cases hp.symm.trans hq
    rw [found?_put hne, if_neg hother]
    exact ⟨content, hq⟩

/-- A folder grows when a file is put where no folder is. -/
theorem grows_put_file {content : Bytes} (hp : f.found? p ≠ some .folder) :
    f.Grows (f.put p (.file content)) := by
  constructor
  · intro q hq
    have hother : q ≠ p := by
      rintro rfl
      exact hp hq
    rw [found?_put hp, if_neg hother]
    exact hq
  · intro q content' hq
    rw [found?_put hp]
    split
    · exact ⟨content, rfl⟩
    · exact ⟨content', hq⟩

/-! ## 2. Walking -/

namespace Grows

variable (hgrows : f.Grows g)
include hgrows

theorem enter {name : String} (h : f.enter p name = .ok q) : g.enter p name = .ok q := by
  unfold Folder.enter at h ⊢
  split at h
  · rename_i hpoint
    rw [if_pos hpoint]
    exact h
  · rename_i hpoint
    rw [if_neg hpoint]
    split at h
    · rename_i hup
      rw [if_pos hup]
      exact h
    · rename_i hup
      rw [if_neg hup]
      split at h
      · cases h
      · rename_i hshort
        rw [if_neg hshort]
        split at h
        · rename_i hfound
          rw [hgrows.folders _ hfound]
          exact h
        · cases h
        · cases h

theorem foldlM_enter {names : List String} (h : names.foldlM f.enter p = .ok q) :
    names.foldlM g.enter p = .ok q := by
  induction names generalizing p with
  | nil => exact h
  | cons name names ih =>
    rw [List.foldlM_cons] at h ⊢
    cases hstep : f.enter p name with
    | error fault =>
      rw [hstep] at h
      cases h
    | ok next =>
      rw [hstep] at h
      rw [hgrows.enter hstep]
      exact ih h

/-- A path that can be walked can still be walked, to the same end. -/
theorem walk {goal : Goal} (h : f.walk path = .ok goal) : g.walk path = .ok goal := by
  unfold Folder.walk at h ⊢
  cases hcheck : Path.check path with
  | error fault =>
    rw [hcheck] at h
    cases h
  | ok done =>
    rw [hcheck] at h
    cases hwalked : (Path.names path).dropLast.foldlM f.enter (Place.startOf path) with
    | error fault =>
      simp only [hwalked] at h
      cases h
    | ok p =>
      simp only [hwalked] at h
      simp only [hgrows.foldlM_enter hwalked]
      exact h

end Grows

/-- What it means that a path leads to a file. -/
theorem find_eq_file_iff {content : Bytes} :
    f.find path = .ok (p, .file content) ↔
      ∃ q name, f.walk path = .ok (.name q name false) ∧ Path.isOverlong name = false ∧
        p = q ++ [name] ∧ f.found? p = some (.file content) := by
  constructor
  · intro hfind
    unfold find at hfind
    cases hwalk : f.walk path with
    | error fault =>
      rw [hwalk] at hfind
      cases hfind
    | ok goal =>
      rw [hwalk] at hfind
      cases goal with
      | folder q => cases hfind
      | name q name slash =>
        simp only [bind, Except.bind] at hfind
        split at hfind
        · cases hfind
        · rename_i hshort
          split at hfind
          · cases hfind
          · rename_i content' hfound
            split at hfind
            · cases hfind
            · rename_i hslash
              cases hfind
              exact ⟨q, name, by rw [Bool.eq_false_iff.mpr hslash], Bool.eq_false_iff.mpr hshort, rfl,
                hfound⟩
          · cases hfind
  · rintro ⟨q, name, hwalk, hshort, rfl, hfound⟩
    simp [find, hwalk, hshort, hfound, bind, Except.bind, pure, Except.pure]

/-- **A path that leads to a file goes on leading there.** -/
theorem Grows.find {content : Bytes} (hgrows : f.Grows g)
    (hfind : f.find path = .ok (p, .file content)) :
    ∃ content', g.find path = .ok (p, .file content') := by
  obtain ⟨q, name, hwalk, hlong, hplace, hfound⟩ := find_eq_file_iff.mp hfind
  obtain ⟨content', hfound'⟩ := hgrows.files p content hfound
  exact ⟨content', find_eq_file_iff.mpr ⟨q, name, hgrows.walk hwalk, hlong, hplace, hfound'⟩⟩

/-! ## 3. Creating folders -/

/-- A folder grows into another by folders only. -/
structure Extends (f g : Folder) : Prop where
  grows : f.Grows g
  files : ∀ p, g.file? p = f.file? p

theorem Extends.refl (f : Folder) : f.Extends f := ⟨.refl f, fun _ => rfl⟩

theorem Extends.trans (hfg : f.Extends g) (hgh : g.Extends h) : f.Extends h :=
  ⟨hfg.grows.trans hgh.grows, fun p => (hgh.files p).trans (hfg.files p)⟩

theorem extends_put_folder (hp : f.found? p = none) : f.Extends (f.put p .folder) := by
  have hne : f.found? p ≠ some .folder := by
    rw [hp]
    exact fun h => by cases h
  refine ⟨grows_put_folder hp, ?_⟩
  intro q
  unfold file?
  rw [found?_put hne]
  by_cases hq : q = p
  · rw [if_pos hq, hq, hp]
  · rw [if_neg hq]

theorem extends_createFolder (hcreate : f.createFolder path = .ok g) : f.Extends g := by
  unfold createFolder at hcreate
  cases hwalk : f.walk path with
  | error fault =>
    rw [hwalk] at hcreate
    cases hcreate
  | ok goal =>
    rw [hwalk] at hcreate
    cases goal with
    | folder q => cases hcreate
    | name q name slash =>
      simp only [bind, Except.bind] at hcreate
      split at hcreate
      · cases hcreate
      · split at hcreate
        · cases hcreate
        · rename_i hnone
          cases hcreate
          exact extends_put_folder (Option.not_isSome_iff_eq_none.mp hnone)

theorem extends_createEach (paths : List String) : f.Extends (f.createEach paths).2 := by
  induction paths generalizing f with
  | nil => exact .refl f
  | cons path paths ih =>
    rw [createEach]
    split
    · rename_i g hcreate
      exact (extends_createFolder hcreate).trans ih
    · split
      · exact ih
      · exact .refl f

theorem extends_createFrom (missing ascent : List String) :
    f.Extends (f.createFrom missing ascent).2 := by
  induction ascent generalizing missing with
  | nil => exact extends_createEach missing
  | cons path above ih =>
    rw [createFrom]
    split
    · rename_i g hcreate
      exact (extends_createFolder hcreate).trans (extends_createEach missing)
    · split
      · exact ih (path :: missing)
      · split
        · exact extends_createEach missing
        · exact .refl f

/-- **Creating the folders on the way to a path touches no file.** -/
theorem extends_createParents (f : Folder) (path : String) : f.Extends (f.createParents path).2 := by
  unfold createParents
  split
  · exact .refl f
  · exact extends_createFrom [] _

/-! ## 4. Opening files -/

/-- What opening a file leaves in it, if it is there. -/
def opened (f : Folder) (keep : Bool) (p : Place) : Bytes :=
  if keep then (f.file? p).getD [] else []

/-- What opening a file for writing does. -/
theorem openForWriting_cases {keep : Bool} (hopen : f.openForWriting path keep = .ok (p, g)) :
    (∃ q name, f.walk path = .ok (.name q name false) ∧ Path.isOverlong name = false ∧
        p = q ++ [name]) ∧
      ((∃ content, f.found? p = some (.file content) ∧
          g = if keep then f else f.put p (.file [])) ∨
        f.found? p = none ∧ g = f.put p (.file [])) := by
  unfold openForWriting at hopen
  cases hwalk : f.walk path with
  | error fault =>
    rw [hwalk] at hopen
    cases hopen
  | ok goal =>
    rw [hwalk] at hopen
    cases goal with
    | folder q => cases hopen
    | name q name slash =>
      simp only [bind, Except.bind] at hopen
      split at hopen
      · cases hopen
      · rename_i hslash
        split at hopen
        · cases hopen
        · rename_i hshort
          have hgoal : (Except.ok (.name q name slash) : Except Fault Goal) =
              .ok (.name q name false) := by
            rw [Bool.eq_false_iff.mpr hslash]
          split at hopen
          · cases hopen
          · rename_i content hfound
            cases hopen
            exact ⟨⟨q, name, hgoal, Bool.eq_false_iff.mpr hshort, rfl⟩, Or.inl ⟨content, hfound, rfl⟩⟩
          · rename_i hnone
            cases hopen
            exact ⟨⟨q, name, hgoal, Bool.eq_false_iff.mpr hshort, rfl⟩, Or.inr ⟨hnone, rfl⟩⟩

/-- **Opening a file touches that file only**: it is there then, emptied unless it is kept, and the path
leads to it. -/
theorem openForWriting_eq_ok {keep : Bool} (hopen : f.openForWriting path keep = .ok (p, g)) :
    f.Grows g ∧ g.find path = .ok (p, .file (f.opened keep p)) ∧
      ∀ q, g.file? q = if q = p then some (f.opened keep p) else f.file? q := by
  obtain ⟨⟨q, name, hwalk, hshort, hplace⟩, hcases⟩ := openForWriting_cases hopen
  have hall : f.Grows g ∧ g.found? p = some (.file (f.opened keep p)) ∧
      ∀ q, q ≠ p → g.found? q = f.found? q := by
    have hput : f.found? p ≠ some .folder → f.opened keep p = [] →
        f.Grows (f.put p (.file [])) ∧
          (f.put p (.file [])).found? p = some (.file (f.opened keep p)) ∧
          ∀ q, q ≠ p → (f.put p (.file [])).found? q = f.found? q := by
      intro hne hnothing
      refine ⟨grows_put_file hne, ?_, fun q hq => found?_put_of_ne hq⟩
      rw [found?_put hne, if_pos rfl, hnothing]
    rcases hcases with ⟨content, hfound, rfl⟩ | ⟨hnone, rfl⟩
    · cases keep with
      | true =>
        refine ⟨.refl f, ?_, fun q hq => rfl⟩
        rw [opened, file?_eq_some_iff.mpr hfound]
        exact hfound
      | false =>
        refine hput ?_ rfl
        rw [hfound]
        exact fun h => by cases h
    · refine hput ?_ ?_
      · rw [hnone]
        exact fun h => by cases h
      · rw [opened, file?, hnone]
        cases keep <;> rfl
  obtain ⟨hgrows, hfound, hothers⟩ := hall
  refine ⟨hgrows, find_eq_file_iff.mpr ⟨q, name, hgrows.walk hwalk, hshort, hplace, hfound⟩, ?_⟩
  intro other
  by_cases hother : other = p
  · rw [if_pos hother, hother]
    exact file?_eq_some_iff.mpr hfound
  · rw [if_neg hother, file?, file?, hothers other hother]

end Readout.Folder
