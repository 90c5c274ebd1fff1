/-
# Commands

A key is a command if it is one of those that reach the sheet, in the mode in which it does
(`Command.Given`):

| command | mode | key | what becomes of the sheet |
| --- | --- | --- | --- |
| `addRow`, `addColumn` | normal, with control | `r`, `n` | an empty row or column more |
| `deleteRow`, `deleteColumn` | | `d`, `x` | the last one less, if there are several |
| `toggleView` | | `f` | the other view |
| `clear` | normal, without | backspace, delete | no text in the selected cell |
| `enter` | editing | enter | the edited text in the selected cell |
| `load` | file name to load | enter | the texts of the file, if it spells a rectangle |

**No other key touches the sheet** (`press_used_sheet`). One of those that are no command computes
all values anew; it changes nothing since the sheet of a session was settled from the start and
every command leaves it so. A file name that is refused leaves everything but the prompt and the
message as it was.
-/

import FormulaGrid.Proofs.Sheet.Storage
import FormulaGrid.Proofs.Sheet.Update
import FormulaGrid.Proofs.Session.Selection

namespace FormulaGrid
namespace Session

/-- The keys that reach the sheet. -/
inductive Command where
  | addRow
  | addColumn
  | deleteRow
  | deleteColumn
  | toggleView
  | clear
  | enter
  | load

/-- **When a key is a command.** -/
def Command.Given (s : Session) (k : KeyPress) : Command → Prop
  | addRow => s.mode = .normal ∧ k.modifiers.control = true ∧ k.key = .char 'r'
  | addColumn => s.mode = .normal ∧ k.modifiers.control = true ∧ k.key = .char 'n'
  | deleteRow => s.mode = .normal ∧ k.modifiers.control = true ∧ k.key = .char 'd'
  | deleteColumn => s.mode = .normal ∧ k.modifiers.control = true ∧ k.key = .char 'x'
  | toggleView => s.mode = .normal ∧ k.modifiers.control = true ∧ k.key = .char 'f'
  | clear =>
    s.mode = .normal ∧ k.modifiers.control = false ∧ (k.key = .backspace ∨ k.key = .delete)
  | enter => s.mode = .editing ∧ k.key = .enter
  | load => s.mode = .loadFile ∧ k.key = .enter

/-- **What a command does to the sheet.** -/
def Command.run (s : Session) (d : Disk) : Command → Sheet
  | addRow => s.sheet.addRow
  | addColumn => s.sheet.addColumn
  | deleteRow => s.sheet.deleteRow?.getD s.sheet
  | deleteColumn => s.sheet.deleteColumn?.getD s.sheet
  | toggleView => s.sheet.toggleView
  | clear => (s.sheet.update? s.selected "").getD s.sheet
  | enter => (s.sheet.update? s.selected s.input).getD s.sheet
  | load => (s.sheet.loadFrom d s.typedFileName).toOption.getD s.sheet

/-- **What becomes of the sheet by a command:** its extent, its texts and its view. -/
def Command.Result (s : Session) (d : Disk) (t : Sheet) : Command → Prop
  | addRow => s.sheet.Resized t (s.sheet.rows + 1) s.sheet.cols
  | addColumn => s.sheet.Resized t s.sheet.rows (s.sheet.cols + 1)
  | deleteRow =>
    if 1 < s.sheet.rows then s.sheet.Resized t (s.sheet.rows - 1) s.sheet.cols else t = s.sheet
  | deleteColumn =>
    if 1 < s.sheet.cols then s.sheet.Resized t s.sheet.rows (s.sheet.cols - 1) else t = s.sheet
  | toggleView => t = { s.sheet with formulaView := !s.sheet.formulaView }
  | clear => s.sheet.Retexted t s.selected ""
  | enter => s.sheet.Retexted t s.selected s.input
  | load =>
    (∀ rows, d.Spells s.typedFileName rows →
      t.texts = rows ∧ t.formulaView = s.sheet.formulaView) ∧
    ((∀ rows, ¬ d.Spells s.typedFileName rows) → t = s.sheet)

/-- **A file name is refused:** the file cannot be written, or cannot be read as a rectangle. -/
def Refuses (s : Session) (d : Disk) : Prop :=
  (s.mode = .saveAs ∧ ∀ d', d.write s.typedFileName (Document.ofSheet s.sheet) ≠ .ok d') ∨
  (s.mode = .loadFile ∧ ∀ rows, ¬ d.Spells s.typedFileName rows)

variable {s : Session} {d : Disk} {k : KeyPress} {c : Command}

/-! ## Keys and commands -/

/-- The sheet without its last row, if it has several. -/
theorem sheet_deleteRow (s : Session) : s.deleteRow.sheet = s.sheet.deleteRow?.getD s.sheet := by
  rw [deleteRow]
  cases s.sheet.deleteRow? <;> rfl

/-- The sheet without its last column, if it has several. -/
theorem sheet_deleteColumn (s : Session) :
    s.deleteColumn.sheet = s.sheet.deleteColumn?.getD s.sheet := by
  rw [deleteColumn]
  cases s.sheet.deleteColumn? <;> rfl

/-- The sheet after editing has the edited text. -/
theorem sheet_finishEditing (s : Session) :
    s.finishEditing.sheet = (s.sheet.update? s.selected s.input).getD s.sheet := by
  rw [finishEditing]
  dsimp only
  split <;> rfl

/-- The sheet after loading is the loaded one, if there is one. -/
theorem sheet_loadNamed (s : Session) (d : Disk) :
    (s.loadNamed d).sheet = (s.sheet.loadFrom d s.typedFileName).toOption.getD s.sheet := by
  rcases loadNamed_cases s d with ⟨_, hload, heq⟩ | ⟨_, hload, heq⟩ <;> rw [heq, hload] <;> rfl

/-- Saving leaves the sheet. -/
theorem sheet_saveNamed (s : Session) (d : Disk) : (s.saveNamed d).1.sheet = s.sheet := by
  rcases saveNamed_cases s d with ⟨_, -, heq⟩ | ⟨_, -, heq⟩ <;> rw [heq] <;> rfl

/-- **A command is done by its key.** -/
theorem sheet_press_of_given (h : c.Given s k) : (s.press d k).1.sheet = c.run s d := by
  cases c with
  | addRow | addColumn | toggleView =>
    obtain ⟨hmode, hcontrol, hkey⟩ := h
    rw [press_of_control hmode hcontrol, hkey]
    rfl
  | deleteRow =>
    obtain ⟨hmode, hcontrol, hkey⟩ := h
    rw [press_of_control hmode hcontrol, hkey]
    exact s.sheet_deleteRow
  | deleteColumn =>
    obtain ⟨hmode, hcontrol, hkey⟩ := h
    rw [press_of_control hmode hcontrol, hkey]
    exact s.sheet_deleteColumn
  | clear =>
    obtain ⟨hmode, hcontrol, hkey | hkey⟩ := h <;>
    · rw [press_of_plain hmode hcontrol, hkey]
      rfl
  | enter =>
    obtain ⟨hmode, hkey⟩ := h
    rw [press_of_editing hmode, hkey]
    exact s.sheet_finishEditing
  | load =>
    obtain ⟨hmode, hkey⟩ := h
    rw [press_of_loadFile_enter hmode hkey]
    exact s.sheet_loadNamed d

/-- **Any other key** leaves the sheet or computes its values anew. -/
theorem sheet_press_of_not_given (d : Disk) (h : ∀ c : Command, ¬ c.Given s k) :
    (s.press d k).1.sheet = s.sheet ∨ (s.press d k).1.sheet = s.sheet.recalculate := by
  cases hmode : s.mode with
  | normal =>
    generalize hkey : k.key = key
    cases hcontrol : k.modifiers.control with
    | true =>
      rw [press_of_control hmode hcontrol, hkey]
      fun_cases pressControl s key with
      | case1 | case2 | case8 => exact .inl rfl
      | case3 => exact absurd ⟨hmode, hcontrol, hkey⟩ (h .addRow)
      | case4 => exact absurd ⟨hmode, hcontrol, hkey⟩ (h .deleteRow)
      | case5 => exact absurd ⟨hmode, hcontrol, hkey⟩ (h .addColumn)
      | case6 => exact absurd ⟨hmode, hcontrol, hkey⟩ (h .deleteColumn)
      | case7 => exact absurd ⟨hmode, hcontrol, hkey⟩ (h .toggleView)
    | false =>
      rw [press_of_plain hmode hcontrol, hkey]
      fun_cases pressPlain { s with status := none } key with
      | case12 => exact absurd ⟨hmode, hcontrol, .inl hkey⟩ (h .clear)
      | case13 => exact absurd ⟨hmode, hcontrol, .inr hkey⟩ (h .clear)
      | case14 => exact .inr rfl
      | _ => exact .inl rfl
  | editing =>
    have hkey : k.key ≠ .enter := fun hkey => h .enter ⟨hmode, hkey⟩
    obtain ⟨_, _, _, -, heq⟩ := pressEditing_eq (s := s) hkey
    rw [press_of_editing hmode, heq]
    exact .inl rfl
  | help =>
    obtain ⟨_, _, -, heq⟩ := pressHelp_eq s k.key
    rw [press_of_help hmode, heq]
    exact .inl rfl
  | saveAs =>
    by_cases hkey : k.key = .enter
    · rw [press_of_saveAs_enter hmode hkey]
      exact .inl (s.sheet_saveNamed d)
    · obtain ⟨_, _, _, -, heq⟩ := pressName_eq s k.key
      rw [press_of_saveAs hmode hkey, heq]
      exact .inl rfl
  | loadFile =>
    have hkey : k.key ≠ .enter := fun hkey => h .load ⟨hmode, hkey⟩
    obtain ⟨_, _, _, -, heq⟩ := pressName_eq s k.key
    rw [press_of_loadFile hmode hkey, heq]
    exact .inl rfl
  | confirmExit =>
    rw [press_of_confirmExit hmode, pressConfirm, answerExit]
    split <;> exact .inl rfl

/-! ## What commands do -/

/-- **A command leaves a settled sheet settled.** -/
theorem Command.settled_run (hs : s.sheet.Settled) (d : Disk) (c : Command) :
    (c.run s d).Settled := by
  cases c with
  | addRow | addColumn => exact Sheet.settled_recalculate _
  | deleteRow | deleteColumn => exact hs.getD_map _ _
  | toggleView => exact hs.toggleView
  | clear | enter => exact hs.update _ _
  | load =>
    rw [run]
    cases hload : s.sheet.loadFrom d s.typedFileName with
    | ok t =>
      obtain ⟨doc, -, hdoc⟩ := Sheet.loadFrom_eq_ok_iff_load.1 hload
      exact Sheet.settled_of_load hdoc
    | error e => exact hs

/-- **A command has its result.** -/
theorem Command.result_run (hs : s.SelectionShown) (d : Disk) (c : Command) :
    c.Result s d (c.run s d) := by
  have hin : s.sheet.inBounds s.selected = true := by
    simp only [Sheet.inBounds, Grid.inBounds, Bool.and_eq_true, decide_eq_true_eq]
    exact ⟨hs.row.lt_count, hs.col.lt_count⟩
  cases c with
  | addRow => exact s.sheet.resized_addRow
  | addColumn => exact s.sheet.resized_addColumn
  | deleteRow =>
    rw [Result, run]
    cases hdelete : s.sheet.deleteRow? with
    | none =>
      rw [if_neg (Sheet.deleteRow?_eq_none_iff.1 hdelete)]
      rfl
    | some t =>
      obtain ⟨hrows, hresized⟩ := Sheet.resized_of_deleteRow? hdelete
      rw [if_pos hrows]
      exact hresized
  | deleteColumn =>
    rw [Result, run]
    cases hdelete : s.sheet.deleteColumn? with
    | none =>
      rw [if_neg (Sheet.deleteColumn?_eq_none_iff.1 hdelete)]
      rfl
    | some t =>
      obtain ⟨hcols, hresized⟩ := Sheet.resized_of_deleteColumn? hdelete
      rw [if_pos hcols]
      exact hresized
  | toggleView => rfl
  | clear => exact Sheet.retexted_update hin ""
  | enter => exact Sheet.retexted_update hin s.input
  | load =>
    rw [run]
    cases hload : s.sheet.loadFrom d s.typedFileName with
    | ok t =>
      obtain ⟨hspells, hview⟩ := Sheet.spells_of_loadFrom hload
      exact ⟨fun rows hrows => ⟨Sheet.spells_unique hspells hrows, hview⟩,
        fun hnone => absurd hspells (hnone _)⟩
    | error e =>
      refine ⟨fun rows hrows => ?_, fun _ => rfl⟩
      obtain ⟨t, ht⟩ := (Sheet.exists_loadFrom_iff (s := s.sheet)).2 ⟨rows, hrows⟩
      rw [hload] at ht
      cases ht

/-- **A refused file name** closes the prompt and leaves a message. -/
theorem press_eq_of_refuses (hkey : k.key = .enter) (h : s.Refuses d) : ∃ message,
    (s.press d k).1 =
      { s with mode := .normal, nameInput := "", cursor := 0, status := some message } := by
  rcases h with ⟨hmode, hwrite⟩ | ⟨hmode, hread⟩
  · rw [press_of_saveAs_enter hmode hkey]
    rcases saveNamed_cases s d with ⟨d', hsave, -⟩ | ⟨_, -, heq⟩
    · rw [Sheet.saveTo] at hsave
      cases hdisk : d.write s.typedFileName (Document.ofSheet s.sheet) with
      | ok d'' => exact absurd hdisk (hwrite d'')
      | error e =>
        rw [hdisk] at hsave
        cases hsave
    · rw [heq]
      exact ⟨_, rfl⟩
  · rw [press_of_loadFile_enter hmode hkey]
    rcases loadNamed_cases s d with ⟨t, hload, -⟩ | ⟨_, -, heq⟩
    · exact absurd (Sheet.spells_of_loadFrom hload).1 (hread _)
    · rw [heq]
      exact ⟨_, rfl⟩

/-! ## Sessions that were used -/

/-- **A key leaves a settled sheet settled.** -/
theorem settled_press (hs : s.sheet.Settled) (d : Disk) (k : KeyPress) :
    (s.press d k).1.sheet.Settled := by
  by_cases h : ∃ c : Command, c.Given s k
  · obtain ⟨c, hc⟩ := h
    rw [sheet_press_of_given hc]
    exact c.settled_run hs d
  · rcases sheet_press_of_not_given d (not_exists.1 h) with heq | heq <;> rw [heq]
    · exact hs
    · exact Sheet.settled_recalculate _

/-- The sheet of a session stays settled. -/
theorem settled_used {sheet : Sheet} (hsheet : sheet.Settled) (events : List Event) :
    (used sheet events).sheet.Settled := by
  induction events using List.reverseRecOn with
  | nil => exact hsheet
  | append_singleton events e ih =>
    rw [used_concat]
    cases e with
    | press k disk => exact settled_press ih disk k
    | resize rows cols => exact ih

/-- **What a key does to the sheet of a session.** Started on a settled sheet and used in any way,
a session has for each command its result, and every other key leaves the sheet as it is; the
sheet is settled again in any case. A refused file name changes the prompt and the message and
nothing else. -/
theorem press_used_sheet {sheet : Sheet} (hsheet : sheet.Settled) (events : List Event)
    (d : Disk) (k : KeyPress) :
    let s := used sheet events
    let t := (s.press d k).1
    (∀ c : Command, c.Given s k → c.Result s d t.sheet) ∧
      ((∀ c : Command, ¬ c.Given s k) → t.sheet = s.sheet) ∧
      t.sheet.Settled ∧
      (k.key = .enter → s.Refuses d → ∃ message,
        t = { s with mode := .normal, nameInput := "", cursor := 0, status := some message }) := by
  intro s t
  have hs : s.sheet.Settled := settled_used hsheet events
  have hshown : s.SelectionShown := selectionShown_used sheet events
  refine ⟨fun c hc => ?_, fun h => ?_, settled_press hs d k, press_eq_of_refuses⟩
  · rw [sheet_press_of_given hc]
    exact c.result_run hshown d
  · rcases sheet_press_of_not_given d h with heq | heq
    · exact heq
    · exact heq.trans hs.recalculate_eq

/-- A key without modifiers. -/
def Key.alone (k : Key) : KeyPress := ⟨k, ⟨false, false, false⟩⟩

/-- A key with control. -/
def Key.withControl (k : Key) : KeyPress := ⟨k, ⟨true, false, false⟩⟩

/-- `press_used_sheet` of a small settled sheet: a started formula is entered as it is, F5 is no
command, and without files the name to load from is refused. -/
theorem press_used_narrow :
    Sheet.narrow.Settled ∧
      Sheet.narrow.Retexted
        ((used .narrow [.press (Key.char '=').alone ⟨[], []⟩]).press ⟨[], []⟩ Key.enter.alone).1.sheet
        ⟨0, 0⟩ "=" ∧
      ((used .narrow [.resize 1 1]).press ⟨[], []⟩ (Key.function 5).alone).1.sheet = .narrow ∧
      ∃ message,
        ((used .narrow [.press (Key.char 'o').withControl ⟨[], []⟩]).press ⟨[], []⟩
          Key.enter.alone).1 = { start .narrow with status := some message } := by
  have hsettled : Sheet.narrow.Settled := Sheet.settled_recalculate _
  obtain ⟨hentered, -⟩ :=
    press_used_sheet hsettled [.press (Key.char '=').alone ⟨[], []⟩] ⟨[], []⟩ Key.enter.alone
  obtain ⟨-, hkept, -⟩ :=
    press_used_sheet hsettled [.resize 1 1] ⟨[], []⟩ (Key.function 5).alone
  obtain ⟨-, -, -, hrefused⟩ :=
    press_used_sheet hsettled [.press (Key.char 'o').withControl ⟨[], []⟩] ⟨[], []⟩ Key.enter.alone
  have hnone : ∀ c : Command,
      ¬ c.Given (used .narrow [.resize 1 1]) (Key.function 5).alone := by
    intro c
    cases c <;> rintro ⟨hmode, hrest⟩ <;> revert hmode hrest <;> decide +kernel
  have hread : ∀ rows, ¬ Disk.Spells ⟨[], []⟩ "mysheet.json" rows := by
    rintro rows ⟨doc, hread, -⟩
    cases hread
  exact ⟨hsettled, hentered .enter ⟨rfl, rfl⟩, hkept hnone,
    hrefused rfl (.inr ⟨rfl, hread⟩)⟩

end Session
end FormulaGrid
