/-
# Places of pictures

A place of a picture is a line and a column in it, both counted from zero (`glyph?`). What is put
together to a picture is found again by its places:

| part | where it is found |
| --- | --- |
| fitted glyphs | at their own places, spaces after them |
| pieces of one length, put one after the other | place `i` is place `i % n` of piece `i / n` |
| the content of a box | one line lower and one place further to the right than in itself |
| a picture laid over another | as much lower and further to the right as its corner is |

A box has exactly the size that it is asked for, and there is nothing in its colors but the line
around it, its title and the spaces that fill it up.
-/

import Mathlib.Data.List.TakeWhile
import FormulaGrid.Screen.Glyph

namespace FormulaGrid
namespace Screen

/-- The glyph at a place. -/
def glyph? (p : Picture) (y x : Nat) : Option Glyph := p[y]?.bind fun gs => gs[x]?

/-- **A picture shows glyphs** in one line, from a place on. -/
def Shows (p : Picture) (y x : Nat) (gs : List Glyph) : Prop :=
  ∀ i < gs.length, glyph? p y (x + i) = gs[i]?

/-- A text cut to a width, or filled up to it with spaces. -/
def fitted (width : Nat) (cs : List Char) : List Char :=
  cs.take width ++ List.replicate (width - cs.length) ' '

variable {α : Type} {p : Paint} {g : Glyph} {gs : List Glyph} {cs : List Char} {text : String}
  {width i : Nat}

/-! ## Fields -/

/-- A list cut to a length, or filled up to it, has the places of the list. -/
theorem getElem?_filled (n : Nat) (l : List α) (a : α) (i : Nat) :
    (l.take n ++ List.replicate (n - l.length) a)[i]? =
      if i < n then some (l[i]?.getD a) else none := by
  rw [List.getElem?_append, List.length_take, List.getElem?_replicate]
  by_cases hi : i < n
  · by_cases hl : i < l.length
    · rw [if_pos (by omega), if_pos hi, List.getElem?_take_of_lt hi, List.getElem?_eq_getElem hl,
        Option.getD_some]
    · rw [if_neg (by omega), if_pos hi, if_pos (by omega),
        List.getElem?_eq_none (Nat.le_of_not_lt hl), Option.getD_none]
  · rw [if_neg (by omega), if_neg hi, if_neg (by omega)]

/-- Fitted glyphs are found at their places, and spaces after them. -/
theorem getElem?_fit (p : Paint) (width : Nat) (gs : List Glyph) (i : Nat) :
    (fit p width gs)[i]? = if i < width then some (gs[i]?.getD ⟨' ', p⟩) else none :=
  getElem?_filled width gs ⟨' ', p⟩ i

/-- A fitted text is as long as it is to be. -/
theorem length_fitted (width : Nat) (cs : List Char) : (fitted width cs).length = width := by
  simp only [fitted, List.length_append, List.length_take, List.length_replicate]
  omega

/-- Fitting a text in one paint is fitting the text. -/
theorem fit_ink (p : Paint) (width : Nat) (cs : List Char) :
    fit p width (ink p cs) = ink p (fitted width cs) := by
  simp [fit, fitted, ink, space, List.map_take]

/-- **A field of a text without line breaks** shows the text, cut or filled up. -/
theorem field_eq (h : '\n' ∉ text.toList) :
    field p width text = ink p (fitted width text.toList) := by
  have hfirst : firstLine text.toList = text.toList :=
    List.takeWhile_eq_self_iff.2 fun c hc => by
      rw [bne_iff_ne]
      rintro rfl
      exact h hc
  rw [field, hfirst, fit_ink]

/-- A field has one paint. -/
theorem paint_of_mem_field (h : g ∈ field p width text) : g.paint = p := by
  rw [field, fit, List.mem_append] at h
  rcases h with h | h
  · obtain ⟨c, -, rfl⟩ := List.mem_map.1 (List.mem_of_mem_take h)
    rfl
  · exact congrArg Glyph.paint (List.eq_of_mem_replicate h)

/-- **Pieces of one length** put one after the other. -/
theorem getElem?_flatMap {l : List α} {f : α → List Glyph} {n : Nat} (hn : 0 < n)
    (hf : ∀ a, (f a).length = n) (i : Nat) :
    (l.flatMap f)[i]? = l[i / n]?.bind fun a => (f a)[i % n]? := by
  induction l generalizing i with
  | nil => rfl
  | cons a l ih =>
    rw [List.flatMap_cons, List.getElem?_append, hf]
    by_cases hi : i < n
    · rw [if_pos hi, Nat.div_eq_of_lt hi, Nat.mod_eq_of_lt hi]
      rfl
    · obtain ⟨j, rfl⟩ := Nat.exists_eq_add_of_le' (Nat.le_of_not_lt hi)
      rw [if_neg hi, Nat.add_sub_cancel, ih, Nat.add_div_right _ hn, Nat.add_mod_right]
      rfl

/-! ## Boxes -/

section
variable {border inside : Paint} {title : String} {height y x : Nat} {content : Picture}
  {line : List Glyph}

/-- The upper line is as long as the box is wide. -/
theorem length_boxTop (hwidth : 2 ≤ width) : (boxTop border title width).length = width := by
  simp only [boxTop, ink, List.length_cons, List.length_append, List.length_take, List.length_map,
    List.length_replicate, List.length_nil]
  omega

/-- The lower line is as long as the box is wide. -/
theorem length_boxBottom (hwidth : 2 ≤ width) : (boxBottom border width).length = width := by
  simp only [boxBottom, List.length_cons, List.length_append, List.length_replicate,
    List.length_nil]
  omega

/-- A line between them is as long as the box is wide. -/
theorem length_boxLine (hwidth : 2 ≤ width) :
    (boxLine border inside width gs).length = width := by
  simp only [boxLine, List.length_cons, List.length_append, length_fit, List.length_nil]
  omega

/-- The upper line has one paint. -/
theorem paint_of_mem_boxTop (h : g ∈ boxTop border title width) : g.paint = border := by
  simp only [boxTop, List.mem_cons, List.mem_append, List.not_mem_nil, or_false] at h
  rcases h with rfl | (h | h) | rfl
  · rfl
  · obtain ⟨c, -, rfl⟩ := List.mem_map.1 (List.mem_of_mem_take h)
    rfl
  · exact congrArg Glyph.paint (List.eq_of_mem_replicate h)
  · rfl

/-- The lower line has one paint. -/
theorem paint_of_mem_boxBottom (h : g ∈ boxBottom border width) : g.paint = border := by
  simp only [boxBottom, List.mem_cons, List.mem_append, List.not_mem_nil, or_false] at h
  rcases h with rfl | h | rfl
  · rfl
  · exact congrArg Glyph.paint (List.eq_of_mem_replicate h)
  · rfl

/-- **The places of a line of a box.** -/
theorem getElem?_boxLine (hwidth : 2 ≤ width) (x : Nat) :
    (boxLine border inside width gs)[x]? =
      if x = 0 ∨ x = width - 1 then some ⟨'│', border⟩
      else if x < width then some (gs[x - 1]?.getD ⟨' ', inside⟩) else none := by
  rw [boxLine]
  cases x with
  | zero => rfl
  | succ x =>
    rw [List.getElem?_cons_succ, List.getElem?_append, length_fit, getElem?_fit]
    by_cases hx : x < width - 2
    · rw [if_pos hx, if_pos hx, if_neg (by omega), if_pos (by omega), Nat.add_sub_cancel]
    · rw [if_neg hx]
      by_cases hlast : x = width - 2
      · rw [if_pos (by omega), hlast, Nat.sub_self]
        rfl
      · rw [if_neg (by omega), if_neg (by omega)]
        exact List.getElem?_eq_none (by simp; omega)

/-- **The lines of a box.** -/
theorem getElem?_box (hheight : 2 ≤ height) (y : Nat) :
    (box border title width height content inside)[y]? =
      if y = 0 then some (boxTop border title width)
      else if y < height - 1 then some (boxLine border inside width (content[y - 1]?.getD []))
      else if y = height - 1 then some (boxBottom border width) else none := by
  have hlines := getElem?_filled (height - 2) content []
  have hmissing :
      height - 2 - (content.take (height - 2)).length = height - 2 - content.length := by
    rw [List.length_take]
    omega
  rw [box, hmissing]
  cases y with
  | zero => rfl
  | succ y =>
    rw [List.getElem?_cons_succ, List.getElem?_append, List.getElem?_map, hlines, List.length_map,
      if_neg (Nat.succ_ne_zero y), Nat.add_sub_cancel]
    have hlength : (content.take (height - 2) ++
        List.replicate (height - 2 - content.length) []).length = height - 2 := by
      rw [List.length_append, List.length_take, List.length_replicate]
      omega
    rw [hlength]
    by_cases hy : y < height - 2
    · rw [if_pos hy, if_pos hy, if_pos (by omega)]
      rfl
    · rw [if_neg hy, if_neg (by omega)]
      by_cases hlast : y = height - 2
      · rw [if_pos (by omega), hlast, Nat.sub_self]
        rfl
      · rw [if_neg (by omega)]
        exact List.getElem?_eq_none (by simp; omega)

/-- A box is as high as it is to be. -/
theorem length_box (hheight : 2 ≤ height) :
    (box border title width height content inside).length = height := by
  simp only [box, List.length_cons, List.length_append, List.length_map, List.length_take,
    List.length_replicate, List.length_nil]
  omega

/-- The lines of a box are as long as it is wide. -/
theorem length_of_mem_box (hwidth : 2 ≤ width)
    (h : line ∈ box border title width height content inside) : line.length = width := by
  simp only [box, List.mem_cons, List.mem_append, List.mem_map, List.not_mem_nil, or_false] at h
  rcases h with rfl | ⟨_, -, rfl⟩ | rfl
  · exact length_boxTop hwidth
  · exact length_boxLine hwidth
  · exact length_boxBottom hwidth

/-- **Inside a box** stands its content, one line and one place from its corner. -/
theorem glyph?_box (hy : 0 < y) (hy' : y < height - 1) (hx : 0 < x) (hx' : x < width - 1) :
    glyph? (box border title width height content inside) y x =
      some ((glyph? content (y - 1) (x - 1)).getD ⟨' ', inside⟩) := by
  rw [glyph?, getElem?_box (by omega), if_neg (by omega), if_pos hy', Option.bind_some,
    getElem?_boxLine (by omega), if_neg (by omega), if_pos (by omega), glyph?]
  cases content[y - 1]? <;> rfl

/-- **The title of a box** stands over it, cut to its width. -/
theorem shows_box_title (border inside : Paint) (title : String) (width height : Nat)
    (content : Picture) :
    Shows (box border title width height content inside) 0 1
      (ink border (title.toList.take (width - 2))) := by
  intro i hi
  have hcut : (ink border title.toList).take (width - 2) =
      ink border (title.toList.take (width - 2)) := by
    rw [ink, ink, List.map_take]
  rw [Nat.add_comm 1 i, glyph?, box, List.getElem?_cons_zero, Option.bind_some, boxTop,
    List.getElem?_cons_succ, hcut, List.append_assoc, List.getElem?_append_left hi]

/-- **A line in a box** is seen from its second place on, filled up. -/
theorem shows_box_line (border inside : Paint) (title : String) (content : Picture)
    (hy : y < height - 2) :
    Shows (box border title width height content inside) (y + 1) 1
      (fit inside (width - 2) (content[y]?.getD [])) := by
  intro i hi
  rw [length_fit] at hi
  rw [glyph?_box (by omega) (by omega) (by omega) (by omega), Nat.add_sub_cancel,
    Nat.add_sub_cancel_left, getElem?_fit, if_pos hi, glyph?]
  cases content[y]? <;> rfl

/-- **The border of a box** is all in its paint. -/
theorem paint_of_border (h : glyph? (box border title width height content inside) y x = some g)
    (hheight : 2 ≤ height) (hwidth : 2 ≤ width)
    (hedge : y = 0 ∨ y = height - 1 ∨ x = 0 ∨ x = width - 1) : g.paint = border := by
  rw [glyph?, getElem?_box hheight] at h
  split at h
  · exact paint_of_mem_boxTop (List.mem_of_getElem? h)
  · split at h
    · rw [Option.bind_some, getElem?_boxLine hwidth, if_pos (by omega)] at h
      rw [← Option.some.inj h]
    · split at h
      · exact paint_of_mem_boxBottom (List.mem_of_getElem? h)
      · cases h

/-- The paints of a box are those of its border, of what fills it up and of its content. -/
theorem paint_of_mem_box (h : line ∈ box border title width height content inside)
    (hg : g ∈ line) : g.paint = border ∨ g.paint = inside ∨ ∃ gs ∈ content, g ∈ gs := by
  simp only [box, List.mem_cons, List.mem_append, List.mem_map, List.not_mem_nil, or_false] at h
  rcases h with rfl | ⟨gs, hgs, rfl⟩ | rfl
  · exact .inl (paint_of_mem_boxTop hg)
  · simp only [boxLine, fit, space, List.mem_cons, List.mem_append, List.not_mem_nil,
      or_false] at hg
    rcases hg with rfl | (hg | hg) | rfl
    · exact .inl rfl
    · rcases hgs with hgs | hgs
      · exact .inr (.inr ⟨gs, List.mem_of_mem_take hgs, List.mem_of_mem_take hg⟩)
      · rw [List.eq_of_mem_replicate hgs, List.take_nil] at hg
        cases hg
    · exact .inr (.inl (congrArg Glyph.paint (List.eq_of_mem_replicate hg)))
    · exact .inl rfl
  · exact .inl (paint_of_mem_boxBottom hg)

end

/-! ## Pictures laid over others -/

/-- What is laid over a line is found from the place on that it is laid. -/
theorem getElem?_coverLine {line top : List Glyph} {x j : Nat} (hx : x ≤ line.length)
    (h : top[j]? = some g) : (coverLine x line top)[x + j]? = some g := by
  have hj : j < top.length := (List.getElem?_eq_some_iff.1 h).1
  have hfront : (line.take x).length = x := by rw [List.length_take, Nat.min_eq_left hx]
  rw [coverLine, List.append_assoc, List.getElem?_append_right (by omega), hfront,
    Nat.add_sub_cancel_left, List.getElem?_append_left hj, h]

/-- **A picture laid over another** is found from its corner on. -/
theorem glyph?_cover {under top : Picture} {x y i j : Nat} (hx : ∀ line ∈ under, x ≤ line.length)
    (hy : y + top.length ≤ under.length) (h : glyph? top i j = some g) :
    glyph? (cover x y under top) (y + i) (x + j) = some g := by
  obtain ⟨line, hline, hg⟩ := Option.bind_eq_some_iff.1 h
  have hi : i < top.length := (List.getElem?_eq_some_iff.1 hline).1
  have hunder : y + i < under.length := by omega
  have hfront : (under.take y).length = y := by rw [List.length_take]; omega
  have hmiddle : (List.zipWith (coverLine x) (under.drop y) top).length = top.length := by
    rw [List.length_zipWith, List.length_drop]
    omega
  have hcovered : (cover x y under top)[y + i]? = some (coverLine x under[y + i] line) := by
    rw [cover, List.append_assoc, List.getElem?_append_right (by omega), hfront,
      Nat.add_sub_cancel_left, List.getElem?_append_left (by omega), List.getElem?_zipWith,
      List.getElem?_drop, List.getElem?_eq_getElem hunder, hline]
  rw [glyph?, hcovered, Option.bind_some]
  exact getElem?_coverLine (hx _ (List.getElem_mem hunder)) hg

/-- **What it shows,** is shown. -/
theorem Shows.cover {under top : Picture} {x y i j : Nat} (hx : ∀ line ∈ under, x ≤ line.length)
    (hy : y + top.length ≤ under.length) (h : Shows top i j gs) :
    Shows (Screen.cover x y under top) (y + i) (x + j) gs := by
  intro n hn
  rw [List.getElem?_eq_getElem hn, Nat.add_assoc]
  exact glyph?_cover hx hy ((h n hn).trans (List.getElem?_eq_getElem hn))

end Screen
end FormulaGrid
