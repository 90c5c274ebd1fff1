/-
# The window on the screen

The screen shows in the window what there is to show and where it belongs (`Part`):

| part | line | columns | text |
| --- | --- | --- | --- |
| `letters col` | 2 | ten from `7 + 11 * (col - first)` on | the letters of a column |
| `label row` | `3 + (row - first)` | 1 to 5 | the number of a row |
| `cell a` | as its row | as its column | what is shown of the cell |

Three calculations have to agree for that: how many rows and columns the screen has room for, how
far the window is scrolled, and where the parts are drawn. They do for every screen of at least
eight lines of eighteen places (`drawn_used`): each part has its place inside the border, the other
places inside are blank, and white on blue are the places of the selected cell and no others.

The texts are those of printable characters that are one place wide: every character is given one
place, and only a line break is treated in another way.

Every place inside the border belongs to one of the lines that are put into the box, and in such a
line either to the five places in front or to one of the columns of eleven places, the first of
which is blank (`getElem?_columns`).
-/

import FormulaGrid.Screen.Draw
import FormulaGrid.Proofs.Address.Letters
import FormulaGrid.Proofs.Session.Command
import FormulaGrid.Proofs.Screen.Place

namespace FormulaGrid
namespace Screen

/-- A row that the window shows. -/
def ShownRow (s : Session) (row : Nat) : Prop :=
  s.scroll.row ≤ row ∧ row < min (s.scroll.row + s.viewRows) s.sheet.rows

/-- A column that the window shows. -/
def ShownCol (s : Session) (col : Nat) : Prop :=
  s.scroll.col ≤ col ∧ col < min (s.scroll.col + s.viewCols) s.sheet.cols

/-- **What there is to see in the window.** -/
inductive Part where
  | letters (col : Nat)
  | label (row : Nat)
  | cell (a : Address)

namespace Part

/-- Whether the window shows a part. -/
def Shown (s : Session) : Part → Prop
  | letters col => ShownCol s col
  | label row => ShownRow s row
  | cell a => ShownRow s a.row ∧ ShownCol s a.col

/-- The line of a part. -/
def line (s : Session) : Part → Nat
  | letters _ => 2
  | label row => 3 + (row - s.scroll.row)
  | cell a => 3 + (a.row - s.scroll.row)

/-- The first column of a part. -/
def column (s : Session) : Part → Nat
  | letters col => 7 + 11 * (col - s.scroll.col)
  | label _ => 1
  | cell a => 7 + 11 * (a.col - s.scroll.col)

/-- The number of columns that a part takes. -/
def width : Part → Nat
  | letters _ => 10
  | label _ => 5
  | cell _ => 10

/-- The text of a part. -/
def text (s : Session) : Part → String
  | letters col => Column.name (col + 1)
  | label row => Nat.repr (row + 1)
  | cell a => s.sheet.shown a

/-- The paint of a part. -/
def paint (s : Session) : Part → Paint
  | letters col => labelPaint (col = s.selected.col)
  | label row => labelPaint (row = s.selected.row)
  | cell a => cellPaint (a = s.selected) (s.sheet.shown a)

/-- **What is seen of a part:** its text, cut or filled up to its columns, in its paint. -/
def glyphs (s : Session) (part : Part) : List Glyph :=
  ink (part.paint s) (fitted part.width (part.text s).toList)

/-- The places of a part. -/
def Covers (s : Session) (part : Part) (y x : Nat) : Prop :=
  y = part.line s ∧ part.column s ≤ x ∧ x < part.column s + part.width

end Part

/-- **The window is drawn** on a picture of `h` lines of `w` places. -/
structure Drawn (s : Session) (w h : Nat) (p : Picture) : Prop where
  height : p.length = h
  width : ∀ line ∈ p, line.length = w
  /-- Around the window is a border, from line 1 on and from the first place to the last one. -/
  top : p[1]? = some (boxTop usual (windowTitle s) w)
  sides : ∀ y, 1 < y → y < h - 4 →
    glyph? p y 0 = some ⟨'│', usual⟩ ∧ glyph? p y (w - 1) = some ⟨'│', usual⟩
  bottom : p[h - 4]? = some (boxBottom usual w)
  /-- Every part is inside the border and is seen at its place. -/
  inside : ∀ part : Part, part.Shown s → 1 < part.line s ∧ part.line s < h - 4 ∧
    0 < part.column s ∧ part.column s + part.width ≤ w - 1
  shows : ∀ part : Part, part.Shown s → Shows p (part.line s) (part.column s) (part.glyphs s)
  /-- Nothing else is seen inside the border. -/
  blank : ∀ y x, 1 < y → y < h - 4 → 0 < x → x < w - 1 →
    (∀ part : Part, part.Shown s → ¬ part.Covers s y x) → glyph? p y x = some ⟨' ', usual⟩
  /-- The selected cell is seen, and stands out. -/
  selected : (Part.cell s.selected).Shown s
  only : ∀ y x g, glyph? p y x = some g →
    (g.paint = ⟨.white, .blue⟩ ↔ (Part.cell s.selected).Covers s y x)

variable {s : Session} {w h y x : Nat} {g : Glyph} {part : Part}

/-! ## Lines of the window -/

/-- The numbers shown from the first one on. -/
theorem getElem?_shownRange (first size count i : Nat) :
    (shownRange first size count)[i]? =
      if first + i < min (first + size) count then some (first + i) else none := by
  rw [shownRange]
  by_cases hi : first + i < min (first + size) count
  · rw [if_pos hi, List.getElem?_range' (by omega), Nat.one_mul]
  · rw [if_neg hi]
    exact List.getElem?_eq_none (by rw [List.length_range']; omega)

/-- A column takes a place of space and ten of its text. -/
theorem length_columnField (p : Paint) (text : String) : (columnField p text).length = 11 := by
  simp [columnField, space, field, length_fit, columnWidth]

section
variable {label : List Glyph} {p : Nat → Paint} {text : Nat → String}

/-- **The places of a line of the window:** five in front, and then eleven for each column. -/
theorem getElem?_columns (hlabel : label.length = 5) (j : Nat) {m : Nat} (hm : m < 11) :
    (label ++ (shownCols s).flatMap fun col => columnField (p col) (text col))[5 + (11 * j + m)]? =
      if s.scroll.col + j < min (s.scroll.col + s.viewCols) s.sheet.cols then
        (columnField (p (s.scroll.col + j)) (text (s.scroll.col + j)))[m]?
      else none := by
  have hj : (11 * j + m) / 11 = j := by omega
  have hm' : (11 * j + m) % 11 = m := by omega
  rw [List.getElem?_append_right (by omega), hlabel, Nat.add_sub_cancel_left,
    getElem?_flatMap (by decide) (fun _ => length_columnField _ _), hj, hm', shownCols,
    getElem?_shownRange]
  split <;> rfl

/-- A column is found at its places. -/
theorem getElem?_column (hlabel : label.length = 5) {col i : Nat} (hcol : ShownCol s col)
    (hi : i < 10) :
    (label ++ (shownCols s).flatMap fun col => columnField (p col) (text col))[
        6 + 11 * (col - s.scroll.col) + i]? = (field (p col) 10 (text col))[i]? := by
  obtain ⟨hfirst, hlast⟩ := hcol
  have hindex : 6 + 11 * (col - s.scroll.col) + i = 5 + (11 * (col - s.scroll.col) + (i + 1)) := by
    omega
  have hsum : s.scroll.col + (col - s.scroll.col) = col := Nat.add_sub_cancel' hfirst
  rw [hindex, getElem?_columns hlabel _ (by omega), hsum, if_pos hlast]
  rfl

/-- **After the first five places** there is nothing but the columns. -/
theorem shownCol_or_blank (hlabel : label.length = 5) {k : Nat} (hk : 5 ≤ k) :
    (∃ col, ShownCol s col ∧ 6 + 11 * (col - s.scroll.col) ≤ k ∧
        k < 6 + 11 * (col - s.scroll.col) + 10) ∨
      ((label ++ (shownCols s).flatMap fun col => columnField (p col) (text col))[k]?).getD
        ⟨' ', usual⟩ = ⟨' ', usual⟩ := by
  obtain ⟨j, m, hm, rfl⟩ : ∃ j m, m < 11 ∧ k = 5 + (11 * j + m) :=
    ⟨(k - 5) / 11, (k - 5) % 11, by omega, by omega⟩
  rw [getElem?_columns hlabel j hm]
  by_cases hj : s.scroll.col + j < min (s.scroll.col + s.viewCols) s.sheet.cols
  · cases m with
    | zero => exact .inr (by rw [if_pos hj]; rfl)
    | succ m =>
      refine .inl ⟨s.scroll.col + j, ⟨Nat.le_add_right _ _, hj⟩, ?_, ?_⟩ <;>
        rw [Nat.add_sub_cancel_left] <;> omega
  · exact .inr (by rw [if_neg hj]; rfl)

end

/-- What is put into the box of the window. -/
def content (s : Session) : Picture := lettersLine s :: (shownRows s).map (rowLine s)

/-- The line of the letters comes first. -/
theorem glyph?_content_zero (s : Session) (k : Nat) :
    glyph? (content s) 0 k = (lettersLine s)[k]? := rfl

/-- The rows that the window shows come after it. -/
theorem glyph?_content_succ (s : Session) (i k : Nat) :
    glyph? (content s) (i + 1) k =
      if s.scroll.row + i < min (s.scroll.row + s.viewRows) s.sheet.rows then
        (rowLine s (s.scroll.row + i))[k]?
      else none := by
  rw [glyph?, content, List.getElem?_cons_succ, List.getElem?_map, shownRows, getElem?_shownRange]
  split <;> rfl

/-- The row numbers take five places. -/
theorem length_label (p : Paint) (text : String) : (field p labelWidth text).length = 5 :=
  length_fit _ _ _

/-- **A part is found** in the content of the box, one line and one place further to the front. -/
theorem glyph?_content_part (hshown : part.Shown s) {i : Nat} (hi : i < part.width) :
    glyph? (content s) (part.line s - 2) (part.column s - 1 + i) =
      (field (part.paint s) part.width (part.text s))[i]? := by
  cases part with
  | letters col =>
    have hx : (Part.letters col).column s - 1 + i = 6 + 11 * (col - s.scroll.col) + i := by
      simp only [Part.column]
      omega
    rw [hx]
    exact getElem?_column rfl hshown hi
  | label row =>
    obtain ⟨hfirst, hlast⟩ := hshown
    have hy : (Part.label row).line s - 2 = row - s.scroll.row + 1 := by
      simp only [Part.line]
      omega
    have hsum : s.scroll.row + (row - s.scroll.row) = row := Nat.add_sub_cancel' hfirst
    have hx : (Part.label row).column s - 1 + i = i := Nat.zero_add i
    have hlabel : i < (field (labelPaint (row = s.selected.row)) labelWidth
        (Nat.repr (row + 1))).length := by
      rw [length_label]
      exact hi
    rw [hy, hx, glyph?_content_succ, hsum, if_pos hlast, rowLine,
      List.getElem?_append_left hlabel]
    rfl
  | cell a =>
    obtain ⟨⟨hfirst, hlast⟩, hcol⟩ := hshown
    have hy : (Part.cell a).line s - 2 = a.row - s.scroll.row + 1 := by
      simp only [Part.line]
      omega
    have hx : (Part.cell a).column s - 1 + i = 6 + 11 * (a.col - s.scroll.col) + i := by
      simp only [Part.column]
      omega
    have hsum : s.scroll.row + (a.row - s.scroll.row) = a.row := Nat.add_sub_cancel' hfirst
    rw [hy, hx, glyph?_content_succ, hsum, if_pos hlast]
    exact getElem?_column (length_label _ _) hcol hi

/-- **Nothing but parts** is found in the content of the box. -/
theorem part_or_blank (hy : 1 < y) (hx : 0 < x) :
    (∃ part : Part, part.Shown s ∧ part.Covers s y x) ∨
      (glyph? (content s) (y - 2) (x - 1)).getD ⟨' ', usual⟩ = ⟨' ', usual⟩ := by
  obtain ⟨k, rfl⟩ : ∃ k, x = k + 1 := ⟨x - 1, by omega⟩
  obtain ⟨i, rfl⟩ : ∃ i, y = i + 2 := ⟨y - 2, by omega⟩
  rw [Nat.add_sub_cancel, Nat.add_sub_cancel]
  cases i with
  | zero =>
    have hspace : (space usual labelWidth).length = 5 := rfl
    rw [glyph?_content_zero, lettersLine]
    rcases Nat.lt_or_ge k 5 with hk | hk
    · -- there are no letters over the row numbers
      rw [List.getElem?_append_left (hspace ▸ hk), space, List.getElem?_replicate]
      exact .inr (by split <;> rfl)
    · rcases shownCol_or_blank (s := s) hspace hk with ⟨col, hcol, hle, hlt⟩ | hblank
      · refine .inl ⟨.letters col, hcol, rfl, ?_, ?_⟩ <;>
          simp only [Part.column, Part.width] <;> omega
      · exact .inr hblank
  | succ i =>
    rw [glyph?_content_succ]
    by_cases hrow : s.scroll.row + i < min (s.scroll.row + s.viewRows) s.sheet.rows
    · have hshown : ShownRow s (s.scroll.row + i) := ⟨Nat.le_add_right _ _, hrow⟩
      have hline : i + 1 + 2 = 3 + (s.scroll.row + i - s.scroll.row) := by omega
      rw [if_pos hrow, rowLine]
      rcases Nat.lt_or_ge k 5 with hk | hk
      · refine .inl ⟨.label (s.scroll.row + i), hshown, hline, ?_, ?_⟩ <;>
          simp only [Part.column, Part.width] <;> omega
      · rcases shownCol_or_blank (s := s) (length_label _ _) hk with ⟨col, hcol, hle, hlt⟩ | hblank
        · refine .inl ⟨.cell ⟨s.scroll.row + i, col⟩, ⟨hshown, hcol⟩, hline, ?_, ?_⟩ <;>
            simp only [Part.column, Part.width] <;> omega
        · exact .inr hblank
    · rw [if_neg hrow]
      exact .inr rfl

/-! ## Lines of the screen -/

/-- The box of the window has its size. -/
theorem length_window (hh : 6 ≤ h) : (window s w (h - 4)).length = h - 4 := length_box (by omega)

/-- **The lines of the screen.** -/
theorem getElem?_base (hh : 6 ≤ h) (y : Nat) :
    (base s w h)[y]? =
      if y = 0 then some (headerLine s w)
      else if y < h - 3 then (window s w (h - 4))[y - 1]?
      else (statusBox s w)[y - (h - 3)]? := by
  rw [base]
  cases y with
  | zero => rfl
  | succ y =>
    have hwindow : (window s w (h - outerLines)).length = h - 4 := length_window hh
    rw [List.getElem?_cons_succ, List.getElem?_append, hwindow, if_neg (Nat.succ_ne_zero y),
      Nat.add_sub_cancel]
    by_cases hy : y < h - 4
    · rw [if_pos hy, if_pos (by omega)]
      rfl
    · have hindex : y - (h - 4) = y + 1 - (h - 3) := by omega
      rw [if_neg hy, if_neg (by omega), hindex]

/-- The places of the window's box. -/
theorem glyph?_base (hh : 6 ≤ h) (hy : 0 < y) (hy' : y < h - 3) :
    glyph? (base s w h) y x = glyph? (window s w (h - 4)) (y - 1) x := by
  rw [glyph?, getElem?_base hh, if_neg (by omega), if_pos hy', glyph?]

/-- **Inside the border** stands the content of the box. -/
theorem glyph?_base_inside (hy : 1 < y) (hy' : y < h - 4) (hx : 0 < x) (hx' : x < w - 1) :
    glyph? (base s w h) y x = some ((glyph? (content s) (y - 2) (x - 1)).getD ⟨' ', usual⟩) := by
  rw [glyph?_base (by omega) (by omega) (by omega), window,
    glyph?_box (by omega) (by omega) hx hx', Nat.sub_sub]
  rfl

/-- The screen has its height. -/
theorem length_base (hh : 6 ≤ h) : (base s w h).length = h := by
  have hwindow : (window s w (h - outerLines)).length = h - 4 := length_window hh
  have hstatus : (statusBox s w).length = 3 := length_box (by omega)
  rw [base, List.length_cons, List.length_append, hwindow, hstatus]
  omega

/-- The lines of the screen have its width. -/
theorem length_of_mem_base (hw : 2 ≤ w) {line : List Glyph} (hline : line ∈ base s w h) :
    line.length = w := by
  rw [base, List.mem_cons, List.mem_append] at hline
  rcases hline with rfl | hline | hline
  · exact length_fit _ _ _
  · exact length_of_mem_box hw hline
  · exact length_of_mem_box hw hline

/-! ## Parts on the screen -/

/-- A screen with room for the window. -/
structure Fits (s : Session) (w h : Nat) : Prop where
  rows : s.viewRows + 7 ≤ h
  cols : 11 * s.viewCols + 7 ≤ w

/-- **Parts are inside the border.** -/
theorem Fits.inside (hfits : Fits s w h) (hrows : 0 < s.viewRows) (hcols : 0 < s.viewCols)
    (hshown : part.Shown s) : 1 < part.line s ∧ part.line s < h - 4 ∧
      0 < part.column s ∧ part.column s + part.width ≤ w - 1 := by
  obtain ⟨hr, hc⟩ := hfits
  cases part with
  | letters col =>
    obtain ⟨hfirst, hlast⟩ := hshown
    simp only [Part.line, Part.column, Part.width]
    omega
  | label row =>
    obtain ⟨hfirst, hlast⟩ := hshown
    simp only [Part.line, Part.column, Part.width]
    omega
  | cell a =>
    obtain ⟨⟨hfirst, hlast⟩, hfirst', hlast'⟩ := hshown
    simp only [Part.line, Part.column, Part.width]
    omega

/-- The texts of the parts are without line breaks if those of the cells are. -/
theorem Part.notMem_text (hcells : ∀ a, (Part.cell a).Shown s → '\n' ∉ (s.sheet.shown a).toList)
    (hshown : part.Shown s) : '\n' ∉ (part.text s).toList := by
  cases part with
  | letters col =>
    rw [Part.text, Column.name, String.toList_ofList]
    intro hmem
    exact absurd (Column.isUpper_of_mem_letters _ hmem) (by decide)
  | label row =>
    rw [Part.text, Nat.toList_repr]
    intro hmem
    exact absurd (Nat.isDigit_of_mem_toDigits (by decide) (by decide) hmem) (by decide)
  | cell a => exact hcells a hshown

/-- **Parts are seen at their places.** -/
theorem Fits.shows (hfits : Fits s w h) (hrows : 0 < s.viewRows) (hcols : 0 < s.viewCols)
    (hshown : part.Shown s) (htext : '\n' ∉ (part.text s).toList) :
    Shows (base s w h) (part.line s) (part.column s) (part.glyphs s) := by
  intro i hi
  have hwidth : i < part.width := by
    simpa [Part.glyphs, ink, length_fitted] using hi
  obtain ⟨hy, hy', hx, hx'⟩ := hfits.inside hrows hcols hshown
  have hindex : part.column s + i - 1 = part.column s - 1 + i := by omega
  rw [glyph?_base_inside hy hy' (by omega) (by omega), hindex, glyph?_content_part hshown hwidth,
    field_eq htext, ← Part.glyphs, List.getElem?_eq_getElem hi, Option.getD_some]

/-- **The places inside the border** are those of parts, or blank. -/
theorem part_or_blank_base (hy : 1 < y) (hy' : y < h - 4) (hx : 0 < x) (hx' : x < w - 1) :
    (∃ part : Part, part.Shown s ∧ part.Covers s y x) ∨
      glyph? (base s w h) y x = some ⟨' ', usual⟩ := by
  rw [glyph?_base_inside hy hy' hx hx']
  exact (part_or_blank hy hx).imp_right (congrArg some)

/-- **At its places a part has its paint.** -/
theorem Part.paint_of_covers {p : Picture}
    (hshows : Shows p (part.line s) (part.column s) (part.glyphs s)) (hcovers : part.Covers s y x)
    (hg : glyph? p y x = some g) : g.paint = part.paint s := by
  obtain ⟨rfl, hle, hlt⟩ := hcovers
  obtain ⟨i, rfl⟩ := Nat.exists_eq_add_of_le hle
  have hi : i < (part.glyphs s).length := by
    simp only [glyphs, ink, List.length_map, length_fitted]
    omega
  rw [hshows i hi] at hg
  obtain ⟨c, -, rfl⟩ := List.mem_map.1 (List.mem_of_getElem? hg)
  rfl

/-- White on blue is the paint of the selected cell and of no other part. -/
theorem Part.paint_eq_iff : part.paint s = ⟨.white, .blue⟩ ↔ part = .cell s.selected := by
  have hlabel : ∀ selected, labelPaint selected ≠ ⟨.white, .blue⟩ := by decide
  cases part with
  | letters col => exact iff_of_false (hlabel _) nofun
  | label row => exact iff_of_false (hlabel _) nofun
  | cell a =>
    rw [paint, cellPaint, Part.cell.injEq]
    by_cases ha : a = s.selected
    · simp [ha]
    · simp only [ha, decide_false, Bool.false_eq_true, if_false, iff_false]
      split <;> decide

/-- **Outside the window and on its border** nothing is white on blue. -/
theorem paint_ne_of_outside (hh : 6 ≤ h) (hw : 2 ≤ w) (hg : glyph? (base s w h) y x = some g)
    (houtside : ¬ (1 < y ∧ y < h - 4 ∧ 0 < x ∧ x < w - 1)) : g.paint ≠ ⟨.white, .blue⟩ := by
  obtain ⟨line, hline, hx⟩ := Option.bind_eq_some_iff.1 hg
  have hmem : g ∈ line := List.mem_of_getElem? hx
  have hlength : x < w := by
    rw [← length_of_mem_base hw (List.mem_of_getElem? hline)]
    exact (List.getElem?_eq_some_iff.1 hx).1
  rw [getElem?_base hh] at hline
  split at hline
  · -- the line on the selected cell
    obtain rfl := Option.some.inj hline
    rw [paint_of_mem_field hmem]
    decide
  · split at hline
    · have hbox : glyph? (window s w (h - 4)) (y - 1) x = some g := by
        rw [glyph?, hline, Option.bind_some, hx]
      rw [paint_of_border hbox (by omega) hw (by omega)]
      decide
    · -- the status
      have hstatus : g.paint = ⟨statusColor s.mode, .usual⟩ := by
        rcases paint_of_mem_box (List.mem_of_getElem? hline) hmem with hp | hp | ⟨gs, hgs, hg⟩
        · exact hp
        · exact hp
        · obtain rfl := List.mem_singleton.1 hgs
          obtain ⟨c, -, rfl⟩ := List.mem_map.1 hg
          rfl
      rw [hstatus]
      simp

/-- **The window is drawn on every screen that has room for it.** -/
theorem Fits.drawn (hfits : Fits s w h) (hselected : s.SelectionShown)
    (hcells : ∀ a, (Part.cell a).Shown s → '\n' ∉ (s.sheet.shown a).toList) :
    Drawn s w h (base s w h) := by
  have hrows := hselected.row.size_pos
  have hcols := hselected.col.size_pos
  have hh : 6 ≤ h := by have := hfits.rows; omega
  have hw : 2 ≤ w := by have := hfits.cols; omega
  have hseen : (Part.cell s.selected).Shown s :=
    ⟨⟨hselected.row.first_le, Nat.lt_min.2 ⟨hselected.row.lt_end, hselected.row.lt_count⟩⟩,
      hselected.col.first_le, Nat.lt_min.2 ⟨hselected.col.lt_end, hselected.col.lt_count⟩⟩
  have hshows : ∀ part : Part, part.Shown s →
      Shows (base s w h) (part.line s) (part.column s) (part.glyphs s) := fun part hpart =>
    hfits.shows hrows hcols hpart (Part.notMem_text hcells hpart)
  refine ⟨length_base hh, fun line => length_of_mem_base hw, ?_, ?_, ?_,
    fun part => hfits.inside hrows hcols, hshows, ?_, hseen, ?_⟩
  · rw [getElem?_base hh, if_neg (by omega), if_pos (by omega), window, getElem?_box (by omega)]
    rfl
  · intro y hy hy'
    have hline : (base s w h)[y]? =
        some (boxLine usual usual w ((content s)[y - 2]?.getD [])) := by
      rw [getElem?_base hh, if_neg (by omega), if_pos (by omega), window, getElem?_box (by omega),
        if_neg (by omega), if_pos (by omega), Nat.sub_sub]
      rfl
    rw [glyph?, glyph?, hline, Option.bind_some, Option.bind_some, getElem?_boxLine hw,
      getElem?_boxLine hw, if_pos (.inl rfl), if_pos (.inr rfl)]
    exact ⟨rfl, rfl⟩
  · rw [getElem?_base hh, if_neg (by omega), if_pos (by omega), window, getElem?_box (by omega),
      if_neg (by omega), if_neg (by omega), if_pos (by omega)]
  · intro y x hy hy' hx hx' hnone
    rcases part_or_blank_base hy hy' hx hx' with ⟨part, hpart, hcovers⟩ | hblank
    · exact absurd hcovers (hnone part hpart)
    · exact hblank
  · intro y x g hg
    constructor
    · intro hpaint
      by_cases hinside : 1 < y ∧ y < h - 4 ∧ 0 < x ∧ x < w - 1
      · obtain ⟨hy, hy', hx, hx'⟩ := hinside
        rcases part_or_blank_base hy hy' hx hx' with ⟨part, hpart, hcovers⟩ | hblank
        · rw [Part.paint_of_covers (hshows part hpart) hcovers hg, Part.paint_eq_iff] at hpaint
          exact hpaint ▸ hcovers
        · rw [hblank] at hg
          rw [← Option.some.inj hg] at hpaint
          cases hpaint
      · exact absurd hpaint (paint_ne_of_outside hh hw hg hinside)
    · intro hcovers
      rw [Part.paint_of_covers (hshows _ hseen) hcovers hg]
      exact Part.paint_eq_iff.2 rfl

/-- **The screen shows exactly the window around the selected cell.** However a session was used,
if the help is not open and what its cells show has no line breaks, then after the window got the
size that a screen of at least eight lines of eighteen places has room for, the window is drawn on
that screen. All characters are taken to be printable and one place wide, which is how they are
painted here. -/
theorem drawn_used (sheet : Sheet) (events : List Session.Event) (hw : 18 ≤ w) (hh : 8 ≤ h)
    (hmode : (Session.used sheet events).mode ≠ .help) :
    let size := windowSize w h
    let s := (Session.used sheet events).resize size.1 size.2
    (∀ a, (Part.cell a).Shown s → '\n' ∉ (s.sheet.shown a).toList) →
      Drawn s w h (draw s w h) := by
  intro size s hcells
  have hselected : s.SelectionShown :=
    (Session.selectionShown_used sheet events).apply (.event (.resize size.1 size.2))
  have hfits : Fits s w h := by
    have hrows : s.viewRows = h - 7 := by
      have hsize : s.viewRows = max (max (h - 7) 1) 1 := rfl
      omega
    have hcols : s.viewCols = (w - 7) / 11 := by
      have hsize : s.viewCols = max (max ((w - 7) / 11) 1) 1 := rfl
      omega
    exact ⟨by omega, by omega⟩
  have hmode' : s.mode ≠ .help := hmode
  rw [draw, if_neg hmode']
  exact hfits.drawn hselected hcells

/-- `drawn_used` of a small sheet whose second cell was selected, on a screen with room for a row
and two columns. -/
theorem drawn_used_narrow :
    let events : List Session.Event := [.press (Session.Key.char 'l').alone ⟨[], []⟩]
    let size := windowSize 30 8
    let s := (Session.used .narrow events).resize size.1 size.2
    s.selected = ⟨0, 1⟩ ∧ Drawn s 30 8 (draw s 30 8) := by
  intro events size s
  have hrows : s.sheet.rows = 1 := by decide +kernel
  have hcols : s.sheet.cols = 2 := by decide +kernel
  have hcells : ∀ a, (Part.cell a).Shown s → '\n' ∉ (s.sheet.shown a).toList := by
    rintro ⟨row, col⟩ ⟨⟨-, hrow⟩, -, hcol⟩
    obtain rfl : row = 0 := by simp only at hrow; omega
    obtain rfl | rfl : col = 0 ∨ col = 1 := by simp only at hcol; omega
    all_goals decide +kernel
  have hmode : (Session.used .narrow events).mode ≠ .help := by decide +kernel
  have hselected : s.selected = ⟨0, 1⟩ := by decide +kernel
  exact ⟨hselected, drawn_used .narrow events (by decide) (by decide) hmode hcells⟩

end Screen
end FormulaGrid
