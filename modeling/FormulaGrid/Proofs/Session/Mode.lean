/-
# Modes

The mode of a session goes with what is typed into: the text of a cell or a file name, with one
cursor for both. These make up the desk of a session, and a key can do few things to it (`Turn`):

| turn | from mode | to mode | what is typed |
| --- | --- | --- | --- |
| `stays` | normal, help | the same | |
| `opensHelp`, `closesHelp` | normal, help | help, normal | |
| `edits` | normal, editing | editing | a text, the cursor in it |
| `closesText` | editing | normal | nothing |
| `names` | normal, file name | file name | a file name, the cursor in it |
| `closesName` | file name | normal | nothing |
| `asks` | normal | confirm exit | |
| `ends`, `goesOn` | confirm exit | the same, normal | |

Each turn leaves the desk tidy: there is a text only while one is edited, a file name only while
one is asked for, and the cursor is in it (`Turn.tidy`). A session is over only by a turn that
asks (`Asked`) and the one of the next key, which ends it (`ToldToEnd`). Both hold of a session
used in any way (`tidy_used_and_finished_iff`).
-/

import FormulaGrid.Proofs.Session.Selection

namespace FormulaGrid
namespace Session

/-- **The mode of a session and what is typed in it,** and whether the session is over. -/
structure Desk where
  mode : Mode
  input : String
  nameInput : String
  cursor : Nat
  finished : Bool

/-- The desk of a session. -/
def desk (s : Session) : Desk := ⟨s.mode, s.input, s.nameInput, s.cursor, s.finished⟩

/-- Whether a mode asks for a file name. -/
def Mode.AsksName (m : Mode) : Prop := m = .saveAs ∨ m = .loadFile

/-- **What a key can do to a desk.** -/
inductive Turn (k : KeyPress) (x : Desk) : Desk → Prop
  | stays (hmode : x.mode = .normal ∨ x.mode = .help) : Turn k x x
  | opensHelp (hmode : x.mode = .normal) : Turn k x { x with mode := .help }
  | closesHelp (hmode : x.mode = .help) : Turn k x { x with mode := .normal }
  | edits {input : String} {cursor : Nat} (hmode : x.mode = .normal ∨ x.mode = .editing)
      (hcursor : cursor ≤ input.length) : Turn k x { x with mode := .editing, input, cursor }
  | closesText (hmode : x.mode = .editing) :
      Turn k x { x with mode := .normal, input := "", cursor := 0 }
  | names {mode : Mode} {nameInput : String} {cursor : Nat} (hasks : mode.AsksName)
      (hmode : x.mode = .normal ∨ x.mode = mode) (hcursor : cursor ≤ nameInput.length) :
      Turn k x { x with mode, nameInput, cursor }
  | closesName (hasks : x.mode.AsksName) :
      Turn k x { x with mode := .normal, nameInput := "", cursor := 0 }
  | asks (hmode : x.mode = .normal) (hcontrol : k.modifiers.control = false)
      (hkey : k.key = .char 'q') : Turn k x { x with mode := .confirmExit }
  | ends (hmode : x.mode = .confirmExit) (hkey : k.key = .char 'y' ∨ k.key = .char 'Y') :
      Turn k x { x with finished := true }
  | goesOn (hmode : x.mode = .confirmExit) (hkey : ¬ (k.key = .char 'y' ∨ k.key = .char 'Y')) :
      Turn k x { x with mode := .normal }

variable {s : Session} {k : KeyPress}

/-! ## Keys and turns -/

/-- Fewer rows need no other desk. -/
theorem desk_deleteRow (s : Session) : s.deleteRow.desk = s.desk := by
  rw [deleteRow]
  cases s.sheet.deleteRow? <;> rfl

/-- Fewer columns need no other desk. -/
theorem desk_deleteColumn (s : Session) : s.deleteColumn.desk = s.desk := by
  rw [deleteColumn]
  cases s.sheet.deleteColumn? <;> rfl

/-- A finished text is off the desk. -/
theorem desk_finishEditing (s : Session) :
    s.finishEditing.desk = { s.desk with mode := .normal, input := "", cursor := 0 } := by
  rw [finishEditing]
  dsimp only
  split <;> rfl

/-- A key in normal mode is a turn. -/
theorem turn_press_of_normal (d : Disk) (k : KeyPress) (hmode : s.mode = .normal) :
    Turn k s.desk (s.press d k).1.desk := by
  generalize hkey : k.key = key
  cases hcontrol : k.modifiers.control with
  | true =>
    rw [press_of_control hmode hcontrol, hkey]
    fun_cases pressControl s key with
    | case1 => exact .names (.inl rfl) (.inl hmode) (Nat.le_refl _)
    | case2 => exact .names (.inr rfl) (.inl hmode) (Nat.le_refl _)
    | case4 =>
      rw [desk_deleteRow]
      exact .stays (.inl hmode)
    | case6 =>
      rw [desk_deleteColumn]
      exact .stays (.inl hmode)
    | case3 | case5 | case7 | case8 => exact .stays (.inl hmode)
  | false =>
    rw [press_of_plain hmode hcontrol, hkey]
    fun_cases pressPlain { s with status := none } key with
    | case9 | case10 => exact .edits (.inl hmode) (Nat.le_refl _)
    | case11 =>
      have hcursor : 1 ≤ (String.singleton Cell.formulaMark).length := by decide
      exact .edits (.inl hmode) hcursor
    | case15 | case16 => exact .opensHelp hmode
    | case17 => exact .asks hmode hcontrol hkey
    | _ => exact .stays (.inl hmode)

/-- A key while a text is edited is a turn. -/
theorem turn_pressEditing (k : KeyPress) (hmode : s.mode = .editing) :
    Turn k s.desk (s.pressEditing k.key).desk := by
  by_cases hkey : k.key = .enter
  · have hdesk : (s.pressEditing k.key).desk = s.finishEditing.desk := by rw [hkey]; rfl
    rw [hdesk, desk_finishEditing]
    exact .closesText hmode
  · obtain ⟨mode, input, cursor, ⟨rfl, hcursor⟩ | ⟨rfl, rfl, rfl⟩, heq⟩ :=
      pressEditing_eq (s := s) hkey
    · rw [heq]
      have hturn : Turn k s.desk { s.desk with mode := .editing, input, cursor } :=
        .edits (.inr hmode) hcursor
      rwa [← hmode] at hturn
    · rw [heq]
      exact .closesText hmode

/-- A key while a file name is asked for is a turn, if it does not accept the name. -/
theorem turn_pressName (k : KeyPress) (hasks : s.mode.AsksName) :
    Turn k s.desk (s.pressName k.key).desk := by
  obtain ⟨mode, nameInput, cursor, ⟨rfl, hcursor⟩ | ⟨rfl, rfl, rfl⟩, heq⟩ := pressName_eq s k.key
  · rw [heq]
    exact .names hasks (.inr rfl) hcursor
  · rw [heq]
    exact .closesName hasks

/-- **Every key is a turn.** -/
theorem turn_press (s : Session) (d : Disk) (k : KeyPress) : Turn k s.desk (s.press d k).1.desk := by
  cases hmode : s.mode with
  | normal => exact turn_press_of_normal d k hmode
  | editing =>
    rw [press_of_editing hmode]
    exact turn_pressEditing k hmode
  | help =>
    obtain ⟨_, _, rfl | rfl, heq⟩ := pressHelp_eq s k.key
    · rw [press_of_help hmode, heq]
      exact .stays (.inr hmode)
    · rw [press_of_help hmode, heq]
      exact .closesHelp hmode
  | saveAs =>
    by_cases hkey : k.key = .enter
    · rw [press_of_saveAs_enter hmode hkey]
      rcases saveNamed_cases s d with ⟨_, -, heq⟩ | ⟨_, -, heq⟩ <;> rw [heq] <;>
        exact .closesName (.inl hmode)
    · rw [press_of_saveAs hmode hkey]
      exact turn_pressName k (.inl hmode)
  | loadFile =>
    by_cases hkey : k.key = .enter
    · rw [press_of_loadFile_enter hmode hkey]
      rcases loadNamed_cases s d with ⟨_, -, heq⟩ | ⟨_, -, heq⟩ <;> rw [heq] <;>
        exact .closesName (.inr hmode)
    · rw [press_of_loadFile hmode hkey]
      exact turn_pressName k (.inr hmode)
  | confirmExit =>
    rw [press_of_confirmExit hmode, pressConfirm, answerExit]
    split
    · next hyes => exact .ends hmode (by simpa using hyes)
    · next hno => exact .goesOn hmode (by simpa using hno)

/-! ## What is kept -/

/-- **A desk is tidy:** a text is on it only while one is edited and a file name only while one is
asked for, with the cursor in it. -/
def Desk.Tidy (x : Desk) : Prop :=
  match x.mode with
  | .editing => x.nameInput = "" ∧ x.cursor ≤ x.input.length
  | .saveAs | .loadFile => x.input = "" ∧ x.cursor ≤ x.nameInput.length
  | .normal | .help | .confirmExit => x.input = "" ∧ x.nameInput = "" ∧ x.cursor = 0

/-- A new desk is tidy. -/
theorem tidy_start (sheet : Sheet) : (start sheet).desk.Tidy := ⟨rfl, rfl, rfl⟩

/-- **A turn leaves a tidy desk tidy.** -/
theorem Turn.tidy {x y : Desk} (h : Turn k x y) (hx : x.Tidy) : y.Tidy := by
  obtain ⟨mode, input, nameInput, cursor, finished⟩ := x
  cases h with
  | stays => exact hx
  | opensHelp hmode | closesHelp hmode | asks hmode | goesOn hmode =>
    cases hmode
    exact hx
  | edits hmode hcursor =>
    rcases hmode with hmode | hmode <;> cases hmode
    · exact ⟨hx.2.1, hcursor⟩
    · exact ⟨hx.1, hcursor⟩
  | closesText hmode =>
    cases hmode
    exact ⟨rfl, hx.1, rfl⟩
  | names hasks hmode hcursor =>
    have hinput : input = "" := by
      rcases hmode with hmode | hmode
      · cases hmode
        exact hx.1
      · rcases hasks with rfl | rfl <;> cases hmode <;> exact hx.1
    rcases hasks with rfl | rfl <;> exact ⟨hinput, hcursor⟩
  | closesName hasks =>
    rcases hasks with hmode | hmode <;> cases hmode <;> exact ⟨hx.1, rfl, rfl⟩
  | ends hmode =>
    cases hmode
    exact hx

/-- A session is over if it was, or if the question was answered with yes. -/
theorem Turn.finished_iff {x y : Desk} (h : Turn k x y) : y.finished = true ↔
    x.finished = true ∨ x.mode = .confirmExit ∧ (k.key = .char 'y' ∨ k.key = .char 'Y') := by
  cases h with
  | stays hmode | edits hmode => rcases hmode with hmode | hmode <;> simp [hmode]
  | opensHelp hmode | closesHelp hmode | closesText hmode | asks hmode => simp [hmode]
  | names hasks hmode =>
    rcases hmode with hmode | hmode
    · simp [hmode]
    · rcases hasks with rfl | rfl <;> simp [hmode]
  | closesName hasks => rcases hasks with hmode | hmode <;> simp [hmode]
  | ends hmode hkey => simp [hmode, hkey]
  | goesOn hmode hkey => simp [hkey]

/-- The question stands, unanswered, after the key that asks it only. -/
theorem Turn.asks_of_confirmExit {x y : Desk} (h : Turn k x y) (hmode : y.mode = .confirmExit)
    (hfinished : y.finished = false) :
    x.mode = .normal ∧ k.modifiers.control = false ∧ k.key = .char 'q' := by
  cases h with
  | asks hnormal hcontrol hkey => exact ⟨hnormal, hcontrol, hkey⟩
  | stays hstays => rcases hstays with h | h <;> cases hmode.symm.trans h
  | names hasks => rcases hasks with h | h <;> cases hmode.symm.trans h
  | ends => cases hfinished
  | opensHelp | closesHelp | edits | closesText | closesName | goesOn => cases hmode

/-! ## Sessions that were used -/

/-- **The question whether to end was just asked:** the last key was a `q` without control, pressed
in normal mode. The window may have got other sizes since. -/
def Asked (sheet : Sheet) (events : List Event) : Prop :=
  ∃ before q d sizes, events = before ++ Event.press q d :: sizes ∧
    (∀ e ∈ sizes, ∃ rows cols, e = Event.resize rows cols) ∧
    (used sheet before).mode = .normal ∧ q.modifiers.control = false ∧ q.key = .char 'q'

/-- **A session was told to end:** the question was asked, and the next key was `y` or `Y`. -/
def ToldToEnd (sheet : Sheet) (events : List Event) : Prop :=
  ∃ before y d after, events = before ++ Event.press y d :: after ∧ Asked sheet before ∧
    (y.key = .char 'y' ∨ y.key = .char 'Y')

variable {sheet : Sheet} {events : List Event}

/-- Another size of the window needs no other desk. -/
theorem desk_resize (s : Session) (rows cols : Nat) : (s.resize rows cols).desk = s.desk := rfl

/-- Nor do several of them. -/
theorem desk_foldl_of_resizes {sizes : List Event}
    (h : ∀ e ∈ sizes, ∃ rows cols, e = Event.resize rows cols) (s : Session) :
    (sizes.foldl Event.apply s).desk = s.desk := by
  induction sizes generalizing s with
  | nil => rfl
  | cons e sizes ih =>
    obtain ⟨⟨rows, cols, rfl⟩, hsizes⟩ := List.forall_mem_cons.1 h
    rw [List.foldl_cons, ih hsizes]
    exact s.desk_resize rows cols

/-- Once asked, the question stands. -/
theorem Asked.mode (h : Asked sheet events) : (used sheet events).mode = .confirmExit := by
  obtain ⟨before, q, d, sizes, rfl, hsizes, hmode, hcontrol, hkey⟩ := h
  have hdesk := desk_foldl_of_resizes hsizes ((used sheet before).press d q).1
  rw [press_of_plain hmode hcontrol, hkey] at hdesk
  rw [used_append, List.foldl_cons, Event.apply, press_of_plain hmode hcontrol, hkey]
  exact congrArg Desk.mode hdesk

/-- **While the question stands, unanswered, it was just asked.** -/
theorem asked_of_confirmExit (hmode : (used sheet events).mode = .confirmExit)
    (hfinished : (used sheet events).finished = false) : Asked sheet events := by
  induction events using List.reverseRecOn with
  | nil => cases hmode
  | append_singleton events e ih =>
    rw [used_concat] at hmode hfinished
    cases e with
    | press k d =>
      obtain ⟨hnormal, hcontrol, hkey⟩ :=
        (turn_press (used sheet events) d k).asks_of_confirmExit hmode hfinished
      exact ⟨events, k, d, [], rfl, by simp, hnormal, hcontrol, hkey⟩
    | resize rows cols =>
      obtain ⟨before, q, d, sizes, rfl, hsizes, hasked⟩ := ih hmode hfinished
      refine ⟨before, q, d, sizes ++ [.resize rows cols], by simp, ?_, hasked⟩
      simpa [or_imp, forall_and] using hsizes

/-- A session that is over stays so. -/
theorem finished_foldl {s : Session} (h : s.finished = true) (later : List Event) :
    (later.foldl Event.apply s).finished = true := by
  induction later generalizing s with
  | nil => exact h
  | cons e later ih =>
    refine ih ?_
    cases e with
    | press k d => exact (turn_press s d k).finished_iff.2 (.inl h)
    | resize rows cols => exact h

/-- **A session is over if, and only if, it was told to end.** -/
theorem finished_iff_toldToEnd : (used sheet events).finished = true ↔ ToldToEnd sheet events := by
  constructor
  · intro h
    induction events using List.reverseRecOn with
    | nil => cases h
    | append_singleton events e ih =>
      have hlater : (used sheet events).finished = true → ToldToEnd sheet (events ++ [e]) := by
        intro hbefore
        obtain ⟨before, y, d, after, heq, htold⟩ := ih hbefore
        exact ⟨before, y, d, after ++ [e], by simp [heq], htold⟩
      rw [used_concat] at h
      cases e with
      | resize rows cols => exact hlater h
      | press k d =>
        by_cases hbefore : (used sheet events).finished = true
        · exact hlater hbefore
        · obtain ⟨hmode, hkey⟩ :=
            ((turn_press (used sheet events) d k).finished_iff.1 h).resolve_left hbefore
          exact ⟨events, k, d, [], rfl,
            asked_of_confirmExit hmode (Bool.not_eq_true _ ▸ hbefore), hkey⟩
  · rintro ⟨before, y, d, after, rfl, hasked, hkey⟩
    rw [used_append, List.foldl_cons]
    have hturn := turn_press (used sheet before) d y
    exact finished_foldl (hturn.finished_iff.2 (.inr ⟨hasked.mode, hkey⟩)) _

/-- The desk of a session stays tidy. -/
theorem tidy_used (sheet : Sheet) (events : List Event) : (used sheet events).desk.Tidy := by
  induction events using List.reverseRecOn with
  | nil => exact tidy_start sheet
  | append_singleton events e ih =>
    rw [used_concat]
    cases e with
    | press k d => exact (turn_press (used sheet events) d k).tidy ih
    | resize rows cols => exact ih

/-- **What is typed, and how a session ends.** However a session was used, a text is there only
while one is edited and a file name only while one is asked for, with the cursor in it. A `q`
without control in normal mode asks whether to end, and the session is over if, and only if, the
next key after such a `q` was `y` or `Y`. -/
theorem tidy_used_and_finished_iff (sheet : Sheet) (events : List Event) :
    (used sheet events).desk.Tidy ∧
      (Asked sheet events → (used sheet events).mode = .confirmExit) ∧
      ((used sheet events).finished = true ↔ ToldToEnd sheet events) :=
  ⟨tidy_used sheet events, Asked.mode, finished_iff_toldToEnd⟩

end Session
end FormulaGrid
