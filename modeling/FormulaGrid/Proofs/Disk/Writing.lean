/-
# Files that are written

A file is written where there is none, or in place of one, never in place of a folder. So all
folders stay where they were, and a path leads where it led before (`target_write`): **what is
written to a path is read from it** (`read_write`).
-/

import Mathlib.Tactic.SplitIfs
import FormulaGrid.Disk

namespace FormulaGrid

open Text (Bytes)

namespace Folder

variable {f g k : Folder} {name n : String} {e : Entry} {folder here : List String}

/-- The other entries are found as before. -/
theorem lookup_put_of_ne (h : n ≠ name) : (put name e f).lookup n = f.lookup n := by
  have hn : (n == name) = false := beq_false_of_ne h
  induction f with
  | nil => simp [put, List.lookup_cons, hn]
  | cons p rest ih =>
    obtain ⟨m, e'⟩ := p
    rw [put]
    split
    · next hm => rw [List.lookup_cons, List.lookup_cons, hm, hn]
    · rw [List.lookup_cons, List.lookup_cons, ih]

/-- What is found behind a name is found in the folder that has it. -/
theorem find_cons_eq_some_iff : f.find (n :: here) = some g ↔
    ∃ j : Folder, f.lookup n = some (.folder j) ∧ j.find here = some g := by
  rw [find]
  split
  · next j hj =>
    rw [hj]
    constructor
    · intro h
      exact ⟨j, rfl, h⟩
    · rintro ⟨j', hj', h⟩
      cases hj'
      exact h
  · next hnone =>
    constructor
    · intro h
      cases h
    · rintro ⟨j, hj, -⟩
      exact absurd hj (hnone j)

/-- **The folder that was changed** is found where it was. -/
theorem find_change (edit : Folder → Folder) (h : f.find folder = some g) :
    (f.change folder edit).find folder = some (edit g) := by
  induction folder generalizing f with
  | nil => exact congrArg (some ∘ edit) (Option.some.inj h)
  | cons m folder ih =>
    obtain ⟨j, hj, hfind⟩ := find_cons_eq_some_iff.1 h
    refine find_cons_eq_some_iff.2 ⟨j.change folder edit, ?_, ih hfind⟩
    rw [change, hj, lookup_put]

/-- **Folders stay where they are** when a file is put in one of them in place of no folder: each is
found, and so are the folders in it. -/
theorem find_change_put {content : Bytes} (hfolder : f.find folder = some k)
    (hname : ∀ j, k.lookup name ≠ some (.folder j)) (h : f.find here = some g) :
    ∃ g', (f.change folder (put name (.file content))).find here = some g' ∧
      ∀ n j, g.lookup n = some (.folder j) → ∃ j', g'.lookup n = some (.folder j') := by
  induction folder generalizing f here with
  | nil =>
    obtain rfl : f = k := Option.some.inj hfolder
    have hsame : ∀ n j, f.lookup n = some (.folder j) →
        (put name (.file content) f).lookup n = some (.folder j) := by
      intro n j hn
      have hne : n ≠ name := by
        rintro rfl
        exact hname j hn
      rw [lookup_put_of_ne hne, hn]
    cases here with
    | nil =>
      obtain rfl : f = g := Option.some.inj h
      exact ⟨_, rfl, fun n j hn => ⟨j, hsame n j hn⟩⟩
    | cons n here =>
      obtain ⟨j, hj, hfind⟩ := find_cons_eq_some_iff.1 h
      exact ⟨g, find_cons_eq_some_iff.2 ⟨j, hsame n j hj, hfind⟩, fun n j hn => ⟨j, hn⟩⟩
  | cons m folder ih =>
    obtain ⟨i, hi, hbelow⟩ := find_cons_eq_some_iff.1 hfolder
    rw [change, hi]
    cases here with
    | nil =>
      obtain rfl : f = g := Option.some.inj h
      refine ⟨_, rfl, fun n j hn => ?_⟩
      by_cases hm : n = m
      · rw [hm, lookup_put]
        exact ⟨_, rfl⟩
      · rw [lookup_put_of_ne hm]
        exact ⟨j, hn⟩
    | cons n here =>
      obtain ⟨j, hj, hfind⟩ := find_cons_eq_some_iff.1 h
      by_cases hm : n = m
      · subst hm
        cases hi.symm.trans hj
        obtain ⟨g', hg', hfolders⟩ := ih hbelow hfind
        exact ⟨g', find_cons_eq_some_iff.2 ⟨_, lookup_put .., hg'⟩, hfolders⟩
      · refine ⟨g, find_cons_eq_some_iff.2 ⟨j, ?_, hfind⟩, fun n j hn => ⟨j, hn⟩⟩
        rw [lookup_put_of_ne hm, hj]

end Folder

namespace Disk

variable {d d' : Disk} {path : String} {content : Bytes} {t : Target} {here next : List String}
  {part : String}

/-- **Where a file was written:** in the folder to which the path leads, in place of no folder. -/
theorem exists_of_write (h : d.write path content = .ok d') : ∃ t f name, d.target path = .ok t ∧
    d.root.find t.folder = some f ∧ t.name? = some name ∧ t.slash = false ∧
    isTooLong name = false ∧ (∀ j, f.lookup name ≠ some (.folder j)) ∧
    d' = { d with root := d.root.change t.folder (Folder.put name (.file content)) } := by
  rw [write] at h
  cases ht : d.target path with
  | error e =>
    rw [ht] at h
    cases h
  | ok t =>
    rw [ht] at h
    simp only [bind, Except.bind] at h
    split at h
    · cases h
    · cases h
    · next f name hf hname =>
      split at h
      · cases h
      · next hslash =>
        split at h
        · cases h
        · next hlong =>
          split at h
          · cases h
          · next hfolder =>
            cases h
            exact ⟨t, f, name, rfl, hf, hname, Bool.eq_false_iff.2 hslash,
              Bool.eq_false_iff.2 hlong, hfolder, rfl⟩

/-- **A way through folders goes on as before.** -/
theorem step_write (h : d.write path content = .ok d') (hstep : d.step here part = .ok next) :
    d'.step here part = .ok next := by
  obtain ⟨t, f, name, -, hf, -, -, -, hfolder, rfl⟩ := exists_of_write h
  rw [step] at hstep ⊢
  split_ifs at hstep ⊢ with hstay hup hlong
  · exact hstep
  · exact hstep
  · split at hstep
    · next j hj =>
      obtain ⟨g, hg, hpart⟩ := Option.bind_eq_some_iff.1 hj
      obtain ⟨g', hg', hfolders⟩ := Folder.find_change_put hf hfolder hg
      obtain ⟨j', hj'⟩ := hfolders _ _ hpart
      rw [hg', Option.bind_some, hj']
      exact hstep
    · cases hstep
    · cases hstep

/-- So does a way of several parts. -/
theorem foldlM_step_write {parts : List String} (h : d.write path content = .ok d')
    (hsteps : parts.foldlM d.step here = .ok next) : parts.foldlM d'.step here = .ok next := by
  induction parts generalizing here with
  | nil => exact hsteps
  | cons part parts ih =>
    rw [List.foldlM_cons] at hsteps ⊢
    cases hstep : d.step here part with
    | error e =>
      rw [hstep] at hsteps
      cases hsteps
    | ok there =>
      rw [hstep] at hsteps
      rw [step_write h hstep]
      exact ih hsteps

/-- A path leads where it led before a file was written. -/
theorem target_write {other : String} (h : d.write path content = .ok d')
    (ht : d.target other = .ok t) : d'.target other = .ok t := by
  have hworking : d'.working = d.working := by
    obtain ⟨_, _, _, -, -, -, -, -, -, rfl⟩ := exists_of_write h
    rfl
  simp only [target, hworking, bind, Except.bind, throw, throwThe, MonadExceptOf.throw, pure,
    Except.pure] at ht ⊢
  generalize (if other.toList.head? = some '/' then [] else d.working) = start at ht ⊢
  split_ifs at ht ⊢
  generalize ((parts other).reverse.dropWhile (· == "")).reverse = way at ht ⊢
  cases hfolder : way.dropLast.foldlM d.step start with
  | error e =>
    rw [hfolder] at ht
    cases ht
  | ok there =>
    rw [hfolder] at ht
    rw [foldlM_step_write h hfolder]
    dsimp only at ht ⊢
    split at ht
    · exact ht
    · next last hlast =>
      split_ifs at ht ⊢
      · cases hstep : d.step there last with
        | error e =>
          rw [hstep] at ht
          cases ht
        | ok next =>
          rw [hstep] at ht
          rw [step_write h hstep]
          exact ht
      · exact ht

/-- **What is written is read.** -/
theorem read_write (h : d.write path content = .ok d') : d'.read path = .ok content := by
  obtain ⟨t, f, name, ht, hf, hname, hslash, hlong, -, hd'⟩ := exists_of_write h
  have hfind : d'.root.find t.folder = some (Folder.put name (.file content) f) := by
    rw [hd']
    exact Folder.find_change _ hf
  have hentry : d'.entry path = .ok (.file content) := by
    rw [entry, target_write h ht]
    simp [bind, Except.bind, hfind, hname, hlong, hslash, Folder.lookup_put, pure, Except.pure]
  rw [read, hentry]
  rfl

end Disk
end FormulaGrid
