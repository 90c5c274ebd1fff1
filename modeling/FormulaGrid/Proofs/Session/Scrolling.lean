/-
# Reading the help

While the help is shown, keys scroll it and do nothing else until one of them closes it. How far it
has been scrolled is counted from the keys since it was opened (`linesScrolled`), each of which adds
to the count or takes from it:

| key | lines scrolled |
| --- | --- |
| down, `j` | one more |
| up, `k` | one less, if there are any |
| page down, page up | as many as five of these |
| home | none |
| other keys | as before |

The count has no upper end: it is not told how many lines there are, or how many are seen.
-/

import FormulaGrid.Proofs.Session.Mode

namespace FormulaGrid
namespace Session

/-- The keys that close the help. -/
def ClosesHelp (k : Key) : Prop :=
  k = .escape ∨ k = .function 1 ∨ k = .char '?' ∨ k = .char 'q'

instance : DecidablePred ClosesHelp := fun _ => inferInstanceAs (Decidable (_ ∨ _ ∨ _ ∨ _))

/-- The lines that the help is scrolled down by after a key. -/
def scrolled (lines : Nat) : Key → Nat
  | .up | .char 'k' => lines - 1
  | .down | .char 'j' => lines + 1
  | .pageUp => lines - helpPage
  | .pageDown => lines + helpPage
  | .home => 0
  | _ => lines

/-- **The lines that keys scroll down by,** the first key first. -/
def linesScrolled (keys : List Key) : Nat := keys.foldl scrolled 0

/-- **The help is being read:** it was opened by F1 or `?` in normal mode, and the keys since then
have not closed it. The window may have got other sizes in between. -/
inductive Reading (sheet : Sheet) : List Event → List Key → Prop
  | opened {events : List Event} {k : KeyPress} (d : Disk)
      (hmode : (used sheet events).mode = .normal) (hcontrol : k.modifiers.control = false)
      (hkey : k.key = .function 1 ∨ k.key = .char '?') :
      Reading sheet (events ++ [.press k d]) []
  | pressed {events : List Event} {keys : List Key} {k : KeyPress} (d : Disk)
      (h : Reading sheet events keys) (hkey : ¬ ClosesHelp k.key) :
      Reading sheet (events ++ [.press k d]) (keys ++ [k.key])
  | resized {events : List Event} {keys : List Key} (rows cols : Nat)
      (h : Reading sheet events keys) : Reading sheet (events ++ [.resize rows cols]) keys

variable {s : Session} {sheet : Sheet} {events : List Event} {keys : List Key} {k : Key}

/-- A key that closes the help closes it. -/
theorem mode_pressHelp_of_closesHelp (hkey : ClosesHelp k) : (s.pressHelp k).mode = .normal := by
  rcases hkey with rfl | rfl | rfl | rfl <;> rfl

/-- Every other key scrolls. -/
theorem pressHelp_of_not_closesHelp (hkey : ¬ ClosesHelp k) :
    s.pressHelp k = { s with helpScroll := scrolled s.helpScroll k } := by
  fun_cases pressHelp s k with
  | case1 | case2 | case3 | case4 => exact absurd (by simp [ClosesHelp]) hkey
  | case5 | case6 | case7 | case8 | case9 | case10 | case11 => rfl
  | case12 =>
    have hsame : scrolled s.helpScroll k = s.helpScroll := by
      fun_cases scrolled s.helpScroll k with
      | case8 => rfl
      | _ => contradiction
    rw [hsame]

/-- **While the help is read, it is shown,** scrolled by the keys since it was opened. -/
theorem Reading.shown (h : Reading sheet events keys) :
    (used sheet events).mode = .help ∧ (used sheet events).helpScroll = linesScrolled keys := by
  induction h with
  | opened d hmode hcontrol hkey =>
    rw [used_concat, Event.apply, press_of_plain hmode hcontrol]
    rcases hkey with hkey | hkey <;> rw [hkey] <;> exact ⟨rfl, rfl⟩
  | @pressed events keys k d h hkey ih =>
    rw [used_concat, Event.apply, press_of_help ih.1, pressHelp_of_not_closesHelp hkey,
      linesScrolled, List.foldl_concat, ← linesScrolled, ← ih.2]
    exact ⟨ih.1, rfl⟩
  | resized rows cols h ih =>
    rw [used_concat]
    exact ih

/-- The help is shown only after a key that met it, or in normal mode. -/
theorem Turn.normal_or_help {press : KeyPress} {x y : Desk} (h : Turn press x y)
    (hmode : y.mode = .help) : x.mode = .normal ∨ x.mode = .help := by
  cases h with
  | stays hstays => exact hstays
  | opensHelp hnormal => exact .inl hnormal
  | names hasks => rcases hasks with h | h <;> cases hmode.symm.trans h
  | ends hconfirm => cases hmode.symm.trans hconfirm
  | closesHelp | edits | closesText | closesName | asks | goesOn => cases hmode

/-- With control, no key opens the help. -/
theorem mode_pressControl_ne (hmode : s.mode = .normal) : (s.pressControl k).mode ≠ .help := by
  have hstays : ∀ t : Session, t.desk = s.desk → t.mode ≠ .help := by
    intro t ht hhelp
    have hsame : t.mode = s.mode := congrArg Desk.mode ht
    rw [hsame, hmode] at hhelp
    cases hhelp
  fun_cases pressControl s k with
  | case1 | case2 =>
    intro hhelp
    cases hhelp
  | case4 => exact hstays _ (desk_deleteRow s)
  | case6 => exact hstays _ (desk_deleteColumn s)
  | case3 | case5 | case7 | case8 => exact hstays _ rfl

/-- Without control, two keys do. -/
theorem opens_of_mode_pressPlain (hhelp : (s.pressPlain k).mode = .help)
    (hmode : s.mode = .normal) : k = .function 1 ∨ k = .char '?' := by
  revert hhelp
  fun_cases pressPlain s k with
  | case15 => exact fun _ => .inl rfl
  | case16 => exact fun _ => .inr rfl
  | case9 | case10 | case11 | case17 =>
    intro hhelp
    cases hhelp
  | _ =>
    intro hhelp
    cases hmode.symm.trans hhelp

/-- **Whenever the help is shown, it is being read.** -/
theorem exists_reading (hmode : (used sheet events).mode = .help) :
    ∃ keys, Reading sheet events keys := by
  induction events using List.reverseRecOn with
  | nil => cases hmode
  | append_singleton events e ih =>
    rw [used_concat] at hmode
    cases e with
    | resize rows cols =>
      obtain ⟨keys, hkeys⟩ := ih hmode
      exact ⟨keys, hkeys.resized rows cols⟩
    | press k d =>
      rw [Event.apply] at hmode
      rcases (turn_press (used sheet events) d k).normal_or_help hmode with hnormal | hhelp
      · cases hcontrol : k.modifiers.control with
        | true =>
          rw [press_of_control hnormal hcontrol] at hmode
          exact absurd hmode (mode_pressControl_ne hnormal)
        | false =>
          rw [press_of_plain hnormal hcontrol] at hmode
          exact ⟨[], .opened d hnormal hcontrol (opens_of_mode_pressPlain hmode hnormal)⟩
      · obtain ⟨keys, hkeys⟩ := ih hhelp
        refine ⟨keys ++ [k.key], hkeys.pressed d fun hkey => ?_⟩
        rw [press_of_help hhelp, mode_pressHelp_of_closesHelp hkey] at hmode
        cases hmode

end Session
end FormulaGrid
