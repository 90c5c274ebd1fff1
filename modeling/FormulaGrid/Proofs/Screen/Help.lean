/-
# The help on the screen

On a screen of `w` places and `h` lines the popup with the help has room for `helpWidth w` places of
`helpHeight h` lines, and a border around them. Screens here are at least 18 places wide and 8 lines
high, and less than 16384 in both, so that four times a size is a number of 16 bits (`Sized`). What
is drawn in the popup are lines of the help in a row, cut to its width, and blank lines after the
last one (`HelpDrawn`). They are known by the first of them: of any four lines of the help in a row,
the characters that they start with tell where they are (`HelpDrawn.unique`).

How far the help has been scrolled is counted without regard to its end, and only what is drawn
stops there. While the count is not above what is drawn, keys scroll as they say
(`helpDrawn_of_reading`). What was counted beyond it has to be scrolled back before a line up is
seen to do anything (`not_helpDrawn_press_up`).
-/

import FormulaGrid.Proofs.Screen.Window
import FormulaGrid.Proofs.Session.Scrolling

namespace FormulaGrid
namespace Screen

open Session (Key KeyPress Reading linesScrolled scrolled)

/-- The places of a line in the popup, which are four fifths of the width without a border. -/
def helpWidth (w : Nat) : Nat := helpSize w - 2

/-- The lines in the popup, which are four fifths of the height without a border. -/
def helpHeight (h : Nat) : Nat := helpSize h - 2

/-- A line of the help, blank behind the last one. -/
def helpLine (n : Nat) : String := helpText.getD n ""

/-- **The help is drawn from a line on:** in each line of the popup stands the next one. -/
structure HelpDrawn (w h first : Nat) (p : Picture) : Prop where
  first_lt : first < helpText.length
  shows : ∀ i < helpHeight h, Shows p (h / 10 + (i + 1)) (w / 10 + 1)
    (ink ⟨.white, .usual⟩ (fitted (helpWidth w) (helpLine (first + i)).toList))

/-- **A screen with room for the help,** whose width and height times four have 16 bits. -/
structure Sized (w h : Nat) : Prop where
  le_width : 18 ≤ w
  width_lt : w < 16384
  le_height : 8 ≤ h
  height_lt : h < 16384

variable {s : Session} {w h i j lines : Nat} {p : Picture}

/-! ## The size of the popup -/

/-- **Four fifths are taken** of a size whose product with four has 16 bits. -/
theorem helpSize_of_lt {size : Nat} (hsize : size < 16384) : helpSize size = size * 4 / 5 := by
  rw [helpSize, Nat.mod_eq_of_lt (by omega)]

/-- There is a place for a line of the help. -/
theorem Sized.helpWidth_pos (hsized : Sized w h) : 0 < helpWidth w := by
  have hmin := hsized.le_width
  rw [helpWidth, helpSize_of_lt hsized.width_lt]
  omega

/-- There are lines enough to tell by them where in the help they are. -/
theorem Sized.four_le_helpHeight (hsized : Sized w h) : 4 ≤ helpHeight h := by
  have hmin := hsized.le_height
  rw [helpHeight, helpSize_of_lt hsized.height_lt]
  omega

/-! ## Lines of the help -/

/-- The character that a line of a text starts with, a space if it is empty. -/
def initial (line : String) : Char := line.toList[0]?.getD ' '

/-- The characters that the lines of the help start with. -/
def helpInitials : List Char :=
  ['G', ' ', '=', '•', '•', '•', '•', ' ', '=', '(', '-', '+', '-', '^', '*', 'm', 'd', '+', ' ',
    'N', ' ', '=', 'm', 'm', ' ', '=', 'D', 'g', ' ', '=', 'A', 'E', '=', 'D', 'F', 'C', 'C', 'C',
    'C', 'F', 'q']

/-- They are these. -/
theorem map_initial_helpText : helpText.map initial = helpInitials := by
  simp only [helpText, List.map_cons, List.map_nil, initial]
  -- line by line, since evaluating a string decodes all of it
  repeat rw [String.toList_ofList]
  rfl

/-- Lines behind the last one start with a space. -/
theorem initial_helpLine (n : Nat) : initial (helpLine n) = helpInitials.getD n ' ' := by
  rw [helpLine, ← map_initial_helpText, List.getD_eq_getElem?_getD, List.getD_eq_getElem?_getD,
    List.getElem?_map]
  cases helpText[n]? <;> rfl

/-- **Four lines in a row are found once.** -/
theorem eq_of_initials (hi : i < helpText.length) (hj : j < helpText.length)
    (h : ∀ n < 4, initial (helpLine (i + n)) = initial (helpLine (j + n))) : i = j := by
  have hdistinct : ∀ i < 41, ∀ j < 41,
      (∀ n < 4, helpInitials.getD (i + n) ' ' = helpInitials.getD (j + n) ' ') → i = j := by
    decide +kernel
  simp only [initial_helpLine] at h
  exact hdistinct i hi j hj h

/-- **The help is drawn from one line on** only. -/
theorem HelpDrawn.unique (hsized : Sized w h) (hi : HelpDrawn w h i p) (hj : HelpDrawn w h j p) :
    i = j := by
  have hwidth := hsized.helpWidth_pos
  have hheight := hsized.four_le_helpHeight
  have hstart : ∀ {first n}, HelpDrawn w h first p → n < helpHeight h →
      glyph? p (h / 10 + (n + 1)) (w / 10 + 1) =
        some ⟨initial (helpLine (first + n)), ⟨.white, .usual⟩⟩ := by
    intro first n hdrawn hn
    have hglyph := hdrawn.shows n hn 0 (by rwa [ink, List.length_map, length_fitted])
    rwa [Nat.add_zero, ink, List.getElem?_map, fitted, getElem?_filled, if_pos hwidth] at hglyph
  refine eq_of_initials hi.first_lt hj.first_lt fun n hn => ?_
  have hsame := (hstart hi (by omega : n < helpHeight h)).symm.trans (hstart hj (by omega))
  exact congrArg Glyph.char (Option.some.inj hsame)

/-! ## The popup -/

/-- The help begins with one of its lines. -/
theorem helpStart_lt (lines : Nat) {visible : Nat} (hvisible : 0 < visible) :
    helpStart lines visible < helpText.length := by
  have hpos : 0 < helpText.length := by decide
  rw [helpStart]
  omega

/-- **A line of the popup** is the next line of the help. -/
theorem shows_helpBox (lines : Nat) (hi : i < helpHeight h) :
    Shows (helpBox lines (helpSize w) (helpSize h)) (i + 1) 1
      (ink ⟨.white, .usual⟩ (fitted (helpWidth w)
        (helpLine (helpStart lines (helpHeight h) + i)).toList)) := by
  have hline : (((helpText.drop (helpStart lines (helpHeight h))).take (helpHeight h)).map fun l =>
      ink ⟨.white, .usual⟩ l.toList)[i]?.getD [] =
      ink ⟨.white, .usual⟩ (helpLine (helpStart lines (helpHeight h) + i)).toList := by
    rw [List.getElem?_map, List.getElem?_take_of_lt hi, List.getElem?_drop, helpLine,
      List.getD_eq_getElem?_getD]
    cases helpText[helpStart lines (helpHeight h) + i]? <;> rfl
  rw [← fit_ink, ← hline]
  exact shows_box_line _ _ _ _ hi

/-- What the popup shows, the screen shows. -/
theorem shows_draw (hsized : Sized w h) (hmode : s.mode = .help) {gs : List Glyph}
    (hshows : Shows (helpBox s.helpScroll (helpSize w) (helpSize h)) i j gs) :
    Shows (draw s w h) (h / 10 + i) (w / 10 + j) gs := by
  obtain ⟨hw, -, hh, hlt⟩ := hsized
  have hsize := helpSize_of_lt hlt
  have hheight : (helpBox s.helpScroll (helpSize w) (helpSize h)).length = helpSize h :=
    length_box (by omega)
  rw [draw, if_pos hmode]
  refine hshows.cover (fun line hline => ?_) ?_
  · rw [length_of_mem_base (by omega) hline]
    omega
  · rw [hheight, length_base (by omega)]
    omega

/-- **The help is drawn** from the line on that it has been scrolled to, as far as it goes. -/
theorem helpDrawn_draw (hsized : Sized w h) (hmode : s.mode = .help) :
    HelpDrawn w h (helpStart s.helpScroll (helpHeight h)) (draw s w h) where
  first_lt := helpStart_lt _ (Nat.lt_of_lt_of_le (by decide) hsized.four_le_helpHeight)
  shows _ hi := shows_draw hsized hmode (shows_helpBox _ hi)

/-- And from no other. -/
theorem helpDrawn_iff (hsized : Sized w h) (hmode : s.mode = .help) :
    HelpDrawn w h i (draw s w h) ↔ i = helpStart s.helpScroll (helpHeight h) := by
  have hdrawn := helpDrawn_draw hsized hmode
  exact ⟨fun h => h.unique hsized hdrawn, fun h => h ▸ hdrawn⟩

/-- **The title** is that of the first line, cut to the popup. -/
theorem shows_helpTitle (hsized : Sized w h) (hmode : s.mode = .help) :
    Shows (draw s w h) (h / 10) (w / 10 + 1) (ink ⟨.cyan, .usual⟩
      ((helpTitle (helpStart s.helpScroll (helpHeight h))).toList.take (helpWidth w))) :=
  shows_draw hsized hmode (shows_box_title _ _ _ _ _ _)

/-- The title has room for the number of its line, unless this has two digits and the popup has one
place too few. -/
theorem number_prefix_helpTitle_iff {first : Nat} (hsized : Sized w h)
    (hfirst : first < helpText.length) :
    ("Help (line " ++ Nat.repr (first + 1)).toList <+:
      (helpTitle first).toList.take (helpWidth w) ↔ 19 ≤ w ∨ first < 9 := by
  have hmin := hsized.le_width
  have hdigits : ∀ first < 41,
      (Nat.toDigits 10 (first + 1)).length = if first < 9 then 1 else 2 := by decide
  have hlength : ("Help (line " ++ Nat.repr (first + 1)).toList.length =
      11 + (Nat.toDigits 10 (first + 1)).length := by
    rw [String.toList_append, List.length_append, Nat.toList_repr]
    rfl
  have hfront : ("Help (line " ++ Nat.repr (first + 1)).toList <+: (helpTitle first).toList := by
    refine ⟨("/" ++ Nat.repr helpText.length ++ ")").toList, ?_⟩
    delta helpTitle
    simp only [String.toList_append, List.append_assoc]
  rw [List.prefix_take_iff, hlength, hdigits first hfirst, helpWidth,
    helpSize_of_lt hsized.width_lt]
  constructor
  · rintro ⟨-, hle⟩
    split at hle <;> omega
  · intro hroom
    refine ⟨hfront, ?_⟩
    split <;> omega

/-! ## Keys -/

/-- **A line down** is one line further, as long as the last line is not seen. -/
theorem helpStart_scrolled_down {visible : Nat} {k : Key} (hk : k = .down ∨ k = .char 'j')
    (hmore : helpStart lines visible + visible < helpText.length) :
    helpStart (scrolled lines k) visible = helpStart lines visible + 1 := by
  have hone : scrolled lines k = lines + 1 := by rcases hk with rfl | rfl <;> rfl
  rw [helpStart] at hmore
  rw [hone, helpStart, helpStart]
  omega

/-- **A line up** is one line back, unless more lines were counted than there are to scroll. -/
theorem helpStart_scrolled_up {visible : Nat} {k : Key} (hk : k = .up ∨ k = .char 'k')
    (hpos : 0 < helpStart lines visible) : helpStart (scrolled lines k) visible =
      if lines + visible ≤ helpText.length then helpStart lines visible - 1
      else helpStart lines visible := by
  have hone : scrolled lines k = lines - 1 := by rcases hk with rfl | rfl <;> rfl
  rw [helpStart] at hpos
  rw [hone, helpStart, helpStart]
  split <;> omega

/-- What is drawn after a key that scrolls. -/
theorem helpDrawn_press_iff (hsized : Sized w h) (hmode : s.mode = .help) (d : Disk)
    {k : KeyPress} (hkey : ¬ Session.ClosesHelp k.key) :
    HelpDrawn w h i (draw (s.press d k).1 w h) ↔
      i = helpStart (scrolled s.helpScroll k.key) (helpHeight h) := by
  have hpress : (s.press d k).1 = { s with helpScroll := scrolled s.helpScroll k.key } := by
    rw [Session.press_of_help hmode, Session.pressHelp_of_not_closesHelp hkey]
  rw [hpress]
  exact helpDrawn_iff hsized hmode

/-- **The help on the screen follows the keys,** up to its end. It is shown if, and only if, it was
opened and the keys since then have not closed it. Then it is drawn from exactly one line on, which
is told by these keys and by the height of the screen, and by the title as far as there is room. A
line down draws the help from the next line on if its last line is not seen. A line up draws it from
the line before, if the keys have not scrolled by more lines than it takes to see the last one; if
they have, the same lines are drawn as before. The screen is one of those on which four times the
width and the height have 16 bits. -/
theorem helpDrawn_of_reading (sheet : Sheet) (events : List Session.Event) (hw : 18 ≤ w)
    (hwidth : w < 16384) (hh : 8 ≤ h) (hheight : h < 16384) :
    let s := Session.used sheet events
    (s.mode = .help ↔ ∃ keys, Reading sheet events keys) ∧
    ∀ keys, Reading sheet events keys →
      let lines := linesScrolled keys
      let first := helpStart lines (helpHeight h)
      (∀ i, HelpDrawn w h i (draw s w h) ↔ i = first) ∧
      Shows (draw s w h) (h / 10) (w / 10 + 1)
        (ink ⟨.cyan, .usual⟩ ((helpTitle first).toList.take (helpWidth w))) ∧
      (("Help (line " ++ Nat.repr (first + 1)).toList <+:
        (helpTitle first).toList.take (helpWidth w) ↔ 19 ≤ w ∨ first < 9) ∧
      (∀ (d : Disk) (k : KeyPress), k.key = .down ∨ k.key = .char 'j' →
        first + helpHeight h < helpText.length →
        ∀ i, HelpDrawn w h i (draw (s.press d k).1 w h) ↔ i = first + 1) ∧
      ∀ (d : Disk) (k : KeyPress), k.key = .up ∨ k.key = .char 'k' → 0 < first →
        ∀ i, HelpDrawn w h i (draw (s.press d k).1 w h) ↔
          i = if lines + helpHeight h ≤ helpText.length then first - 1 else first := by
  intro s
  have hsized : Sized w h := ⟨hw, hwidth, hh, hheight⟩
  refine ⟨⟨Session.exists_reading, fun ⟨keys, h⟩ => h.shown.1⟩, fun keys hreading => ?_⟩
  intro lines first
  obtain ⟨hmode, hscroll⟩ := hreading.shown
  have hfirst : helpStart s.helpScroll (helpHeight h) = first := by rw [hscroll]
  have hlt : first < helpText.length := hfirst ▸ (helpDrawn_draw hsized hmode).first_lt
  refine ⟨fun i => hfirst ▸ helpDrawn_iff hsized hmode, hfirst ▸ shows_helpTitle hsized hmode,
    number_prefix_helpTitle_iff hsized hlt, ?_, ?_⟩
  · intro d k hk hmore i
    have hkey : ¬ Session.ClosesHelp k.key := by
      rcases hk with hk | hk <;> rw [hk] <;> simp [Session.ClosesHelp]
    rw [helpDrawn_press_iff hsized hmode d hkey, hscroll, helpStart_scrolled_down hk hmore]
  · intro d k hk hpos i
    have hkey : ¬ Session.ClosesHelp k.key := by
      rcases hk with hk | hk <;> rw [hk] <;> simp [Session.ClosesHelp]
    rw [helpDrawn_press_iff hsized hmode d hkey, hscroll, helpStart_scrolled_up hk hpos]

/-- Of the lines of the help, 38 are seen on a screen of 50 lines, so that it goes three lines down.
A page down is counted as five lines, and a line up then leaves the help where it was. -/
theorem not_helpDrawn_press_up :
    let s := Session.used (.blank 1 1) [.press (Key.function 1).alone ⟨[], []⟩,
      .press Key.pageDown.alone ⟨[], []⟩]
    let t := (s.press ⟨[], []⟩ Key.up.alone).1
    HelpDrawn 80 50 3 (draw s 80 50) ∧ ¬ HelpDrawn 80 50 2 (draw t 80 50) ∧
      HelpDrawn 80 50 3 (draw t 80 50) := by
  intro s t
  have hs : s.mode = .help ∧ s.helpScroll = 5 := ⟨rfl, rfl⟩
  have ht : t.mode = .help ∧ t.helpScroll = 4 := ⟨rfl, rfl⟩
  have hsized : Sized 80 50 := ⟨by decide, by decide, by decide, by decide⟩
  rw [helpDrawn_iff hsized hs.1, helpDrawn_iff hsized ht.1, helpDrawn_iff hsized ht.1, hs.2, ht.2]
  decide

/-- `helpDrawn_of_reading` of the help opened by `?` and scrolled a line down: it is drawn from the
second line on, a line further after `j`, and from its start after `k`. -/
theorem helpDrawn_of_reading_second :
    let s := Session.used (.blank 1 1) [.press (Key.char '?').alone ⟨[], []⟩,
      .press Key.down.alone ⟨[], []⟩]
    HelpDrawn 80 20 1 (draw s 80 20) ∧
      HelpDrawn 80 20 2 (draw (s.press ⟨[], []⟩ (Key.char 'j').alone).1 80 20) ∧
      HelpDrawn 80 20 0 (draw (s.press ⟨[], []⟩ (Key.char 'k').alone).1 80 20) := by
  intro s
  have hopened : Reading (.blank 1 1) [.press (Key.char '?').alone ⟨[], []⟩] [] :=
    @Reading.opened _ [] _ _ rfl rfl (.inr rfl)
  have hreading : Reading (.blank 1 1) [.press (Key.char '?').alone ⟨[], []⟩,
      .press Key.down.alone ⟨[], []⟩] [.down] :=
    @Reading.pressed _ _ _ _ _ hopened (by decide)
  have hw : 18 ≤ 80 ∧ 80 < 16384 := by decide
  have hh : 8 ≤ 20 ∧ 20 < 16384 := by decide
  obtain ⟨hdrawn, -, -, hdown, hup⟩ :=
    (helpDrawn_of_reading (.blank 1 1) _ hw.1 hw.2 hh.1 hh.2).2 _ hreading
  exact ⟨(hdrawn 1).2 (by decide), (hdown _ _ (.inr rfl) (by decide) 2).2 (by decide),
    (hup _ _ (.inr rfl) (by decide) 0).2 (by decide)⟩

end Screen
end FormulaGrid
