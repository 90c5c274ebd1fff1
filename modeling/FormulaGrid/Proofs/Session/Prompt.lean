/-
# The file that a prompt offers

A prompt offers the name of the file last saved to or loaded from. A name that is accepted loses the
blanks around it, and if nothing is left the usual one is taken (`acceptedPath`):

| file name | path |
| --- | --- |
| none | `mysheet.json` |
| `a.json` | `a.json` |
| `a.json` with a blank at an end | `a.json` |
| empty, or nothing but blanks | `mysheet.json` |

So the path is the file name exactly if that is not empty and has no blank at its ends
(`acceptedPath_some_eq_iff`); another file name is exchanged for one that is
(`acceptedPath_acceptedPath`). What was saved to the path is loaded from it again as long as the
file and its name are the same, whatever has become of the sheet (`pressSave_pressLoad`).
-/

import FormulaGrid.Proofs.Disk.Writing
import FormulaGrid.Proofs.Session.Command
import FormulaGrid.Proofs.Text.Trimming

namespace FormulaGrid

namespace Sheet

variable {s : Sheet} {d d' : Disk} {path : String}

/-- **What is saved to a file is loaded from it,** as long as the file stays the same. -/
theorem exists_loadFrom_of_saveTo (u : Sheet) {e : Disk} (h : s.saveTo d path = .ok d')
    (hread : e.read path = d'.read path) :
    ∃ t, u.loadFrom e path = .ok t ∧ t.texts = s.texts ∧ t.formulaView = u.formulaView ∧
      t.Settled := by
  have hwrite : d.write path (Document.ofSheet s) = .ok d' := by
    rw [saveTo] at h
    cases hdisk : d.write path (Document.ofSheet s) with
    | ok d'' =>
      rw [hdisk] at h
      exact congrArg Except.ok (Except.ok.inj h)
    | error err =>
      rw [hdisk] at h
      cases h
  have hspells := Document.spells_ofSheet s
  obtain ⟨t, ht⟩ := (exists_load_iff (s := u)).2 ⟨_, _, _, hspells, s.isRectangle_texts⟩
  obtain ⟨hspells', hview, hsettled⟩ := load_eq_ok_iff.1 ht
  refine ⟨t, loadFrom_eq_ok_iff_load.2 ⟨_, ?_, ht⟩, hspells'.unique hspells, hview, hsettled⟩
  rw [hread, Disk.read_write hwrite]

end Sheet

namespace Session

open Text (isBlank)

variable {s : Session} {d : Disk}

/-! ## Accepted names -/

/-- **The path of a file name that was accepted.** -/
def acceptedPath (fileName : Option String) : String :=
  let name := Text.trimmed (fileName.getD usualFileName)
  if name.isEmpty then usualFileName else name

/-- A name that is not blank is taken without the blanks around it. -/
theorem acceptedPath_of_ne {q : String} (h : Text.trimmed q ≠ "") :
    acceptedPath (some q) = Text.trimmed q :=
  if_neg (by simpa using h)

/-- A blank name gives way to the usual one. -/
theorem acceptedPath_of_eq {q : String} (h : Text.trimmed q = "") :
    acceptedPath (some q) = usualFileName :=
  if_pos (by simpa using h)

/-- A name stays as it is without the blanks around it if there are none. -/
theorem trimmed_eq_self_iff {q : String} : Text.trimmed q = q ↔
    (∀ c ∈ q.toList.head?, isBlank c = false) ∧ ∀ c ∈ q.toList.getLast?, isBlank c = false := by
  rw [← Text.trim_eq_self_iff, Text.trimmed, ← String.toList_inj, String.toList_ofList]

/-- The usual name is no blank one. -/
theorem trimmed_usualFileName : Text.trimmed usualFileName = usualFileName := by decide +kernel

/-- **The path is the file name** exactly if that is not empty and has no blank at its ends. -/
theorem acceptedPath_some_eq_iff {q : String} : acceptedPath (some q) = q ↔ q ≠ "" ∧
    (∀ c ∈ q.toList.head?, isBlank c = false) ∧ ∀ c ∈ q.toList.getLast?, isBlank c = false := by
  rw [← trimmed_eq_self_iff]
  by_cases hq : Text.trimmed q = ""
  · rw [acceptedPath_of_eq hq, hq]
    constructor
    · rintro rfl
      rw [trimmed_usualFileName] at hq
      exact absurd hq (by decide)
    · rintro ⟨hne, heq⟩
      exact absurd heq.symm hne
  · rw [acceptedPath_of_ne hq]
    exact ⟨fun h => ⟨h ▸ hq, h⟩, fun h => h.2⟩

/-- A path that was accepted is accepted again. -/
theorem acceptedPath_acceptedPath (fileName : Option String) :
    acceptedPath (some (acceptedPath fileName)) = acceptedPath fileName := by
  have hkept : ∀ q, Text.trimmed q = q → q ≠ "" → acceptedPath (some q) = q := fun q h hne =>
    acceptedPath_some_eq_iff.2 ⟨hne, trimmed_eq_self_iff.1 h⟩
  rw [acceptedPath.eq_1 fileName]
  split
  · exact hkept _ trimmed_usualFileName (by decide)
  · next hne =>
    refine hkept _ ?_ (by simpa using hne)
    rw [Text.trimmed, Text.trimmed, String.toList_ofList, Text.trim_trim]

/-! ## Accepting the offer -/

/-- **Control and `s`, then enter.** -/
def pressSave (s : Session) (d : Disk) : Session × Disk :=
  let (t, e) := s.press d (Key.withControl (.char 's'))
  t.press e (Key.alone .enter)

/-- **Control and `o`, then enter.** -/
def pressLoad (s : Session) (d : Disk) : Session × Disk :=
  let (t, e) := s.press d (Key.withControl (.char 'o'))
  t.press e (Key.alone .enter)

/-- Enter saves to the file that was asked for. -/
theorem press_enter_of_saveAs (h : s.mode = .saveAs) :
    s.press d (Key.alone .enter) = s.saveNamed d := by
  rw [press, h]
  exact if_pos rfl

/-- Enter loads from the file that was asked for. -/
theorem press_enter_of_loadFile (h : s.mode = .loadFile) :
    s.press d (Key.alone .enter) = (s.loadNamed d, d) := by
  rw [press, h]
  exact congrArg (·, d) (if_pos rfl)

/-- The sheet is saved to the path of the offer. -/
theorem pressSave_eq (h : s.mode = .normal) : s.pressSave d = s.askSave.saveNamed d := by
  have hask : s.press d (Key.withControl (.char 's')) = (s.askSave, d) := by
    rw [press, h]
    rfl
  rw [pressSave, hask]
  exact press_enter_of_saveAs rfl

/-- The sheet is loaded from the path of the offer. -/
theorem pressLoad_eq (h : s.mode = .normal) : s.pressLoad d = (s.askLoad.loadNamed d, d) := by
  have hask : s.press d (Key.withControl (.char 'o')) = (s.askLoad, d) := by
    rw [press, h]
    rfl
  rw [pressLoad, hask]
  exact press_enter_of_loadFile rfl

/-- **A file that can be loaded** from the path of the offer is loaded. -/
theorem pressLoad_of_loadFrom {t : Sheet} (h : s.mode = .normal)
    (hload : s.sheet.loadFrom d (acceptedPath s.fileName) = .ok t) :
    ∃ v, s.pressLoad d = (v, d) ∧ v.sheet = t ∧ v.fileName = some (acceptedPath s.fileName) ∧
      v.mode = .normal := by
  rw [pressLoad_eq h]
  rcases loadNamed_cases s.askLoad d with ⟨t', hload', heq⟩ | ⟨e, hload', -⟩
  · obtain rfl : t' = t := Except.ok.inj (hload'.symm.trans hload)
    rw [heq]
    exact ⟨_, rfl, rfl, rfl, rfl⟩
  · cases hload'.symm.trans hload

/-- **What is saved by accepting the offer is loaded by accepting it.** The path is the file name,
or the usual one if there is none, unless the name is empty or has a blank at one of its ends. If
the sheet cannot be saved there, that is said, and the file name stays. If it can, the path is the
file name from then on; and whatever happens later, once the session is back in normal mode, and if
the file and its name have not changed, the texts that were saved are loaded. -/
theorem pressSave_pressLoad (s : Session) (d : Disk) (h : s.mode = .normal) :
    (s.fileName = none → acceptedPath s.fileName = usualFileName) ∧
    (∀ q, s.fileName = some q → (acceptedPath s.fileName = q ↔ q ≠ "" ∧
      (∀ c ∈ q.toList.head?, isBlank c = false) ∧ ∀ c ∈ q.toList.getLast?, isBlank c = false)) ∧
    (∀ e, s.sheet.saveTo d (acceptedPath s.fileName) = .error e → s.pressSave d =
      ({ s with
          nameInput := "", cursor := 0, status := some ("Save failed: " ++ e.text) }, d)) ∧
    ∀ d', s.sheet.saveTo d (acceptedPath s.fileName) = .ok d' →
      s.pressSave d =
        ({ s with
            nameInput := "", cursor := 0
            status := some ("Saved to " ++ acceptedPath s.fileName)
            fileName := some (acceptedPath s.fileName) }, d') ∧
      ∀ (later : List Event) (u : Session) (disk : Disk),
        u = later.foldl Event.apply (s.pressSave d).1 → u.mode = .normal →
        u.fileName = some (acceptedPath s.fileName) →
        disk.read (acceptedPath s.fileName) = d'.read (acceptedPath s.fileName) →
        ∃ v, u.pressLoad disk = (v, disk) ∧ v.sheet.texts = s.sheet.texts ∧
          v.sheet.formulaView = u.sheet.formulaView ∧ v.sheet.Settled ∧
          v.fileName = some (acceptedPath s.fileName) ∧ v.mode = .normal := by
  refine ⟨fun hnone => ?_, fun q hq => hq ▸ acceptedPath_some_eq_iff, fun e he => ?_,
    fun d' hsave => ⟨?_, fun later u disk _ hmode hname hread => ?_⟩⟩
  · rw [hnone, acceptedPath, Option.getD_none, trimmed_usualFileName]
    exact ite_self _
  · rw [pressSave_eq h]
    rcases saveNamed_cases s.askSave d with ⟨d', hsave, -⟩ | ⟨e', hsave, heq⟩
    · cases hsave.symm.trans he
    · obtain rfl : e' = e := Except.error.inj (hsave.symm.trans he)
      rw [heq]
      exact congrArg (·, d) (by rw [h]; rfl)
  · rw [pressSave_eq h]
    rcases saveNamed_cases s.askSave d with ⟨d'', hsave', heq⟩ | ⟨e', hsave', -⟩
    · obtain rfl : d'' = d' := Except.ok.inj (hsave'.symm.trans hsave)
      rw [heq]
      exact congrArg (·, d'') (by rw [h]; rfl)
    · cases hsave'.symm.trans hsave
  · obtain ⟨t, ht, htexts, hview, hsettled⟩ :=
      Sheet.exists_loadFrom_of_saveTo u.sheet hsave hread
    have hpath : acceptedPath u.fileName = acceptedPath s.fileName := by
      rw [hname, acceptedPath_acceptedPath]
    have hload : u.sheet.loadFrom disk (acceptedPath u.fileName) = .ok t := by rw [hpath, ht]
    obtain ⟨v, hv, rfl, hvname, hvmode⟩ := pressLoad_of_loadFrom hmode hload
    exact ⟨v, hv, htexts, hview, hsettled, hpath ▸ hvname, hvmode⟩

/-- A new session on an empty cell that has a file name. -/
def named (q : String) : Session := { start (Sheet.blank 1 1) with fileName := some q }

/-- A disk without files. -/
def emptyDisk : Disk := ⟨[], []⟩

/-- A file name with a space before it: another file is saved to, and the session takes its name. -/
theorem pressSave_named_space :
    ((named " a.json").pressSave emptyDisk).1.fileName = some "a.json" ∧
    ((named " a.json").pressSave emptyDisk).2.has " a.json" = false ∧
    ((named " a.json").pressSave emptyDisk).2.has "a.json" = true := by
  decide +kernel

/-- Without the space the file is saved to and loaded from. -/
theorem pressSave_pressLoad_named : (named "a.json").mode = .normal ∧
    acceptedPath (named "a.json").fileName = "a.json" ∧
    ∃ d' v, (named "a.json").sheet.saveTo emptyDisk "a.json" = .ok d' ∧
      ((named "a.json").pressSave emptyDisk).2 = d' ∧
      ((named "a.json").pressSave emptyDisk).1.fileName = some "a.json" ∧
      ((named "a.json").pressSave emptyDisk).1.pressLoad d' = (v, d') ∧
      v.sheet.texts = (named "a.json").sheet.texts := by
  have hmode : (named "a.json").mode = .normal := rfl
  have hpath : acceptedPath (named "a.json").fileName = "a.json" := by decide +kernel
  have hsome : ((named "a.json").sheet.saveTo emptyDisk "a.json").toOption.isSome = true := by
    decide +kernel
  obtain ⟨-, -, -, hsaved⟩ := pressSave_pressLoad (named "a.json") emptyDisk hmode
  rw [hpath] at hsaved
  cases hsave : (named "a.json").sheet.saveTo emptyDisk "a.json" with
  | error e =>
    rw [hsave] at hsome
    cases hsome
  | ok d' =>
    obtain ⟨heq, hload⟩ := hsaved d' hsave
    have hname : ((named "a.json").pressSave emptyDisk).1.fileName = some "a.json" := by rw [heq]
    have hnormal : ((named "a.json").pressSave emptyDisk).1.mode = .normal := by rw [heq, hmode]
    obtain ⟨v, hv, htexts, -⟩ := hload [] _ d' rfl hnormal hname rfl
    exact ⟨hmode, hpath, d', v, rfl, by rw [heq], hname, hv, htexts⟩

end Session
end FormulaGrid
