/-
# Strings are read as they are spelled

A string is read up to a closing quote exactly if what stands before the quote spells the string
(`string_eq_ok_iff`).

The reader goes byte by byte and asks only at the end whether the bytes are UTF-8, those of the
string together with those that it has put for escapes (`Unescapes`). So a character that is
spelled by itself may come in several steps. No escape can come between them: an escape leaves
whole characters, and the bytes after the first one of a character do not begin one.
-/

import FormulaGrid.Proofs.Document.Spelling
import FormulaGrid.Proofs.Text.Utf8
import Mathlib.Logic.Basic
import Mathlib.Tactic.SplitIfs

namespace FormulaGrid
namespace Document

open Text (Bytes)

variable {bs r : Bytes} {b : UInt8} {c : Char} {cs w : List Char} {n m : Nat}

/-! ## Codes -/

/-- A valid code point is that of its character. -/
theorem toNat_ofNat_of_isValidChar (h : n.isValidChar) : (Char.ofNat n).toNat = n := by
  rw [Char.ofNat, dif_pos h]
  rfl

/-- Below `80`, the bytes of a hexadecimal digit are those of its two cases. -/
theorem toLower_eq_hexDigit_iff : ∀ n < 0x80, ∀ v < 0x10,
    ((Char.ofNat n).toLower = hexDigit v ↔ hexValue? (UInt8.ofNat n) = some v) := by
  decide +kernel

/-- A hexadecimal digit is a byte below `80` and has a value below 16. -/
theorem lt_of_hexValue? {v : Nat} (h : hexValue? b = some v) : b.toNat < 0x80 ∧ v < 0x10 := by
  simp only [hexValue?] at h
  split_ifs at h <;> cases h <;> omega

/-- A character that is a hexadecimal digit in lower case is below `80`. -/
theorem lt_of_toLower_eq_hexDigit {x : Char} {v : Nat} (hv : v < 0x10)
    (h : x.toLower = hexDigit v) : x.toNat < 0x80 := by
  have hdigit : ∀ v < 0x10, (hexDigit v).toNat < 0x80 := by decide
  delta Char.toLower at h
  split at h
  · next hupper => exact Nat.lt_of_le_of_lt (UInt32.le_iff_toNat_le.1 hupper.2) (by decide)
  · exact h ▸ hdigit v hv

/-- **A hexadecimal digit**, in either case, is read as its value. -/
theorem hexDigit_iff {x : Char} {v : Nat} : v < 0x10 ∧ x.toLower = hexDigit v ↔
    ∃ b, String.utf8EncodeChar x = [b] ∧ hexValue? b = some v := by
  constructor
  · rintro ⟨hv, h⟩
    have hx := lt_of_toLower_eq_hexDigit hv h
    have hvalue := (toLower_eq_hexDigit_iff x.toNat hx v hv).1 (by rwa [Char.ofNat_toNat])
    exact ⟨_, Text.utf8EncodeChar_of_lt hx, hvalue⟩
  · rintro ⟨b, hx, hvalue⟩
    obtain ⟨hb, hv⟩ := lt_of_hexValue? hvalue
    obtain ⟨b', rest, hx', ⟨hlt, -, -⟩ | ⟨-, hge⟩, -⟩ := Text.exists_utf8EncodeChar x
    · rw [Text.utf8EncodeChar_of_lt hlt, List.cons.injEq] at hx
      have hlower := (toLower_eq_hexDigit_iff x.toNat hlt v hv).2 (by rwa [hx.1])
      rw [Char.ofNat_toNat] at hlower
      exact ⟨hv, hlower⟩
    · rw [hx, List.cons.injEq] at hx'
      rw [← hx'.1] at hge
      omega

/-- Every byte below `80` is that of a character. -/
theorem exists_utf8EncodeChar_eq (h : b.toNat < 0x80) :
    ∃ x : Char, String.utf8EncodeChar x = [b] := by
  have hx : (Char.ofNat b.toNat).toNat = b.toNat :=
    toNat_ofNat_of_isValidChar (.inl (by omega))
  refine ⟨Char.ofNat b.toNat, ?_⟩
  rw [Text.utf8EncodeChar_of_lt (by omega), hx, UInt8.ofNat_toNat]

/-- A byte that has a value is that of a hexadecimal digit. -/
theorem exists_of_hexValue? {v : Nat} (h : hexValue? b = some v) :
    ∃ x : Char, String.utf8EncodeChar x = [b] ∧ v < 0x10 ∧ x.toLower = hexDigit v := by
  obtain ⟨x, hx⟩ := exists_utf8EncodeChar_eq (lt_of_hexValue? h).1
  exact ⟨x, hx, hexDigit_iff.2 ⟨b, hx, h⟩⟩

/-- **Four hexadecimal digits** are read as the number that they spell. -/
theorem hexFour_eq_ok_iff :
    hexFour bs = .ok (n, r) ↔ ∃ w, SpellsCode n w ∧ bs = Text.utf8 w ++ r := by
  constructor
  · intro h
    unfold hexFour at h
    split at h
    · next a b c d r' =>
      split at h
      · next n' hn =>
        cases h
        simp only [hexNumber?, Option.bind_eq_bind, Option.bind_eq_some_iff,
          Option.some.injEq] at hn
        obtain ⟨va, ha, vb, hb, vc, hc, vd, hd, rfl⟩ := hn
        obtain ⟨xa, hxa, hva, hla⟩ := exists_of_hexValue? ha
        obtain ⟨xb, hxb, hvb, hlb⟩ := exists_of_hexValue? hb
        obtain ⟨xc, hxc, hvc, hlc⟩ := exists_of_hexValue? hc
        obtain ⟨xd, hxd, hvd, hld⟩ := exists_of_hexValue? hd
        refine ⟨[xa, xb, xc, xd], ⟨by omega, ?_⟩, ?_⟩
        · simp only [List.map_cons, List.map_nil, hla, hlb, hlc, hld]
          congr <;> omega
        · simp [Text.utf8, hxa, hxb, hxc, hxd]
      · cases h
    · cases h
  · rintro ⟨w, ⟨hn, hw⟩, rfl⟩
    obtain ⟨xa, w, rfl, ha, hw⟩ := List.map_eq_cons_iff.1 hw
    obtain ⟨xb, w, rfl, hb, hw⟩ := List.map_eq_cons_iff.1 hw
    obtain ⟨xc, w, rfl, hc, hw⟩ := List.map_eq_cons_iff.1 hw
    obtain ⟨xd, w, rfl, hd, hw⟩ := List.map_eq_cons_iff.1 hw
    obtain rfl := List.map_eq_nil_iff.1 hw
    obtain ⟨a, hxa, ha⟩ := hexDigit_iff.1 ⟨by omega, ha⟩
    obtain ⟨b, hxb, hb⟩ := hexDigit_iff.1 ⟨by omega, hb⟩
    obtain ⟨c, hxc, hc⟩ := hexDigit_iff.1 ⟨by omega, hc⟩
    obtain ⟨d, hxd, hd⟩ := hexDigit_iff.1 ⟨by omega, hd⟩
    have hnumber : hexNumber? a b c d = some n := by
      simp only [hexNumber?, ha, hb, hc, hd, Option.bind_eq_bind, Option.bind_some]
      congr 1
      omega
    simp [Text.utf8, hxa, hxb, hxc, hxd, hexFour, hnumber]

/-- The first halves of surrogate pairs. -/
theorem isLeading_iff : isLeading n = true ↔ 0xD800 ≤ n ∧ n ≤ 0xDBFF := by
  rw [isLeading, Bool.and_eq_true, decide_eq_true_eq, decide_eq_true_eq]

/-- The second halves of surrogate pairs. -/
theorem isTrailing_iff : isTrailing n = true ↔ 0xDC00 ≤ n ∧ n ≤ 0xDFFF := by
  rw [isTrailing, Bool.and_eq_true, decide_eq_true_eq, decide_eq_true_eq]

/-- The number of two halves is below `100000`, and they are its halves. -/
theorem halves_of_isLeading (hn : isLeading n = true) (hm : isTrailing m = true) :
    (n - 0xD800) * 0x400 + (m - 0xDC00) < 0x100000 ∧
      0xD800 + ((n - 0xD800) * 0x400 + (m - 0xDC00)) / 0x400 = n ∧
      0xDC00 + ((n - 0xD800) * 0x400 + (m - 0xDC00)) % 0x400 = m := by
  rw [isLeading_iff] at hn
  rw [isTrailing_iff] at hm
  omega

/-- The halves of a number below `100000` are halves of a pair, and the number is theirs. -/
theorem isLeading_of_lt (hn : n < 0x100000) :
    isLeading (0xD800 + n / 0x400) = true ∧ isTrailing (0xD800 + n / 0x400) = false ∧
      isTrailing (0xDC00 + n % 0x400) = true ∧
      (0xD800 + n / 0x400 - 0xD800) * 0x400 + (0xDC00 + n % 0x400 - 0xDC00) = n := by
  rw [isLeading_iff, isTrailing_iff, Bool.eq_false_iff, Ne, isTrailing_iff]
  omega

/-- The bytes of the start of an escape by code. -/
theorem utf8_codeEscape (w : List Char) :
    Text.utf8 ('\\' :: 'u' :: w) = 92 :: 117 :: Text.utf8 w := rfl

/-- **The second half of a surrogate pair** is read as the number that its escape spells. -/
theorem trailingHalf_eq_ok_iff : trailingHalf bs = .ok (n, r) ↔
    ∃ w, SpellsCode n w ∧ isTrailing n = true ∧ bs = Text.utf8 ('\\' :: 'u' :: w) ++ r := by
  constructor
  · intro h
    unfold trailingHalf at h
    split at h
    · cases h
    · split_ifs at h with hb
      split at h
      · cases h
      · split_ifs at h with hb'
        split at h
        · cases h
        · next n' r' hfour =>
          split_ifs at h with htrailing
          cases h
          obtain ⟨w, hcode, rfl⟩ := hexFour_eq_ok_iff.1 hfour
          refine ⟨w, hcode, htrailing, ?_⟩
          rw [not_not.1 hb, not_not.1 hb', utf8_codeEscape]
          rfl
  · rintro ⟨w, hcode, htrailing, rfl⟩
    have hfour := hexFour_eq_ok_iff.2 ⟨w, hcode, (rfl : Text.utf8 w ++ r = _)⟩
    simp [utf8_codeEscape, trailingHalf, hfour, htrailing]

/-! ## Escapes -/

/-- A spelling of a character by code is one of the two. -/
theorem spellsChar_code_iff : SpellsChar c ('\\' :: 'u' :: w) ↔ SpellsCode c.toNat w ∨
    ∃ u v, 0x10000 ≤ c.toNat ∧ SpellsCode (0xD800 + beyond c / 0x400) u ∧
      SpellsCode (0xDC00 + beyond c % 0x400) v ∧ w = u ++ '\\' :: 'u' :: v := by
  constructor
  · intro h
    cases h with
    | letter h => simp [letterEscapes] at h
    | code h => exact .inl h
    | pair large leading trailing => exact .inr ⟨_, _, large, leading, trailing, rfl⟩
  · rintro (h | ⟨u, v, large, leading, trailing, rfl⟩)
    · exact .code h
    · exact .pair large leading trailing

/-- **An escape by code** is read as the character that it spells. -/
theorem codeEscape_eq_ok_iff : codeEscape bs = .ok (c, r) ↔
    ∃ w, SpellsChar c ('\\' :: 'u' :: w) ∧ bs = Text.utf8 w ++ r := by
  constructor
  · intro h
    unfold codeEscape at h
    split at h
    · cases h
    · next n r' hfour =>
      obtain ⟨w, hcode, rfl⟩ := hexFour_eq_ok_iff.1 hfour
      split_ifs at h with htrailing hleading
      · split at h
        · cases h
        · next m r' hhalf =>
          obtain ⟨v, hcode', htrailing', rfl⟩ := trailingHalf_eq_ok_iff.1 hhalf
          obtain ⟨hlt, hfirst, hsecond⟩ := halves_of_isLeading hleading htrailing'
          obtain ⟨rfl, rfl⟩ := Prod.mk.inj (Except.ok.inj h)
          have hvalue := toNat_ofNat_of_isValidChar
            (n := (n - 0xD800) * 0x400 + (m - 0xDC00) + 0x10000) (.inr (by omega))
          have hbeyond : beyond (Char.ofNat ((n - 0xD800) * 0x400 + (m - 0xDC00) + 0x10000)) =
              (n - 0xD800) * 0x400 + (m - 0xDC00) := by
            unfold beyond
            omega
          rw [← hfirst, ← hbeyond] at hcode
          rw [← hsecond, ← hbeyond] at hcode'
          exact ⟨w ++ '\\' :: 'u' :: v,
            spellsChar_code_iff.2 (.inr ⟨w, v, by omega, hcode, hcode', rfl⟩),
            by rw [Text.utf8_append, List.append_assoc]⟩
      · obtain ⟨rfl, rfl⟩ := Prod.mk.inj (Except.ok.inj h)
        have hlt := hcode.1
        rw [isTrailing_iff] at htrailing
        rw [isLeading_iff] at hleading
        have hvalue := toNat_ofNat_of_isValidChar (n := n) (by rw [Nat.isValidChar]; omega)
        exact ⟨w, spellsChar_code_iff.2 (.inl (by rwa [hvalue])), rfl⟩
  · rintro ⟨w, h, rfl⟩
    have hvalid : c.toNat < 0xD800 ∨ 0xDFFF < c.toNat ∧ c.toNat < 0x110000 := c.valid
    rcases spellsChar_code_iff.1 h with hcode | ⟨u, v, large, leading, trailing, rfl⟩
    · have hfour := hexFour_eq_ok_iff.2 ⟨w, hcode, (rfl : Text.utf8 w ++ r = _)⟩
      have htrailing : isTrailing c.toNat = false :=
        Bool.eq_false_iff.2 (mt isTrailing_iff.1 (by omega))
      have hleading : isLeading c.toNat = false :=
        Bool.eq_false_iff.2 (mt isLeading_iff.1 (by omega))
      simp [codeEscape, hfour, htrailing, hleading]
    · have hlt : beyond c < 0x100000 := by
        unfold beyond
        omega
      obtain ⟨hleading, hnot, htrailing, hvalue⟩ := isLeading_of_lt hlt
      have hc : beyond c + 0x10000 = c.toNat := by
        unfold beyond
        omega
      have hfour := hexFour_eq_ok_iff.2
        ⟨u, leading, (rfl : Text.utf8 u ++ (Text.utf8 ('\\' :: 'u' :: v) ++ r) = _)⟩
      have hhalf := trailingHalf_eq_ok_iff.2
        ⟨v, trailing, htrailing, (rfl : Text.utf8 ('\\' :: 'u' :: v) ++ r = _)⟩
      rw [Text.utf8_append, List.append_assoc, codeEscape]
      simp only [hfour, hhalf, hnot, hleading, hvalue, hc, Char.ofNat_toNat]
      rfl

/-- A byte that stands for a character after a backslash is one of the letters. -/
theorem exists_of_simpleEscape? (h : simpleEscape? b = some c) :
    ∃ x, (x, c) ∈ letterEscapes ∧ String.utf8EncodeChar x = [b] := by
  unfold simpleEscape? at h
  split_ifs at h with h₁ h₂ h₃ h₄ h₅ h₆ h₇ h₈ <;> cases h
  · exact ⟨'"', by simp [letterEscapes], by rw [h₁]; rfl⟩
  · exact ⟨'\\', by simp [letterEscapes], by rw [h₂]; rfl⟩
  · exact ⟨'/', by simp [letterEscapes], by rw [h₃]; rfl⟩
  · exact ⟨'b', by simp [letterEscapes], by rw [h₄]; rfl⟩
  · exact ⟨'f', by simp [letterEscapes], by rw [h₅]; rfl⟩
  · exact ⟨'n', by simp [letterEscapes], by rw [h₆]; rfl⟩
  · exact ⟨'r', by simp [letterEscapes], by rw [h₇]; rfl⟩
  · exact ⟨'t', by simp [letterEscapes], by rw [h₈]; rfl⟩

/-- A letter is a byte that stands for its character after a backslash, and is not `u`. -/
theorem simpleEscape?_of_mem {x : Char} (h : (x, c) ∈ letterEscapes) :
    ∃ b, String.utf8EncodeChar x = [b] ∧ b ≠ 117 ∧ simpleEscape? b = some c := by
  simp only [letterEscapes, List.mem_cons, Prod.mk.injEq, List.not_mem_nil, or_false] at h
  rcases h with ⟨rfl, rfl⟩ | ⟨rfl, rfl⟩ | ⟨rfl, rfl⟩ | ⟨rfl, rfl⟩ | ⟨rfl, rfl⟩ | ⟨rfl, rfl⟩ |
    ⟨rfl, rfl⟩ | ⟨rfl, rfl⟩ <;> exact ⟨_, rfl, by decide, rfl⟩

/-- **An escape** is read as the character that it spells. -/
theorem escape_eq_ok_iff : escape bs = .ok (c, r) ↔
    ∃ w, SpellsChar c ('\\' :: w) ∧ bs = Text.utf8 w ++ r := by
  constructor
  · intro h
    unfold escape at h
    split at h
    · cases h
    · split_ifs at h with hu
      · obtain ⟨w, hc, rfl⟩ := codeEscape_eq_ok_iff.1 h
        exact ⟨'u' :: w, hc, by rw [hu]; rfl⟩
      · split at h
        · next c' hsimple =>
          cases h
          obtain ⟨x, hx, hb⟩ := exists_of_simpleEscape? hsimple
          exact ⟨[x], .letter hx, by rw [Text.utf8_cons, hb]; rfl⟩
        · cases h
  · -- all spellings by code go on with a `u`
    have hcode : ∀ {w}, SpellsChar c ('\\' :: 'u' :: w) →
        escape (Text.utf8 ('u' :: w) ++ r) = .ok (c, r) := by
      intro w h
      have hread := codeEscape_eq_ok_iff.2 ⟨w, h, (rfl : Text.utf8 w ++ r = _)⟩
      change escape (117 :: (Text.utf8 w ++ r)) = _
      rw [escape, if_pos rfl, hread]
    rintro ⟨w, h, rfl⟩
    cases h with
    | plain _ _ backslash => exact absurd rfl backslash
    | letter hx =>
      obtain ⟨b, hb, hu, hsimple⟩ := simpleEscape?_of_mem hx
      simp [Text.utf8, hb, escape, hu, hsimple]
    | code h => exact hcode (.code h)
    | pair large leading trailing => exact hcode (.pair large leading trailing)

/-! ## Strings -/

/-- **The bytes of a string** beside the bytes that spell it, before it is asked whether the former
are UTF-8. -/
inductive Unescapes : Bytes → Bytes → Prop where
  | nil : Unescapes [] []
  | byte {b : UInt8} {s w : Bytes} (quote : b ≠ 34) (backslash : b ≠ 92) (control : ¬ b < 32)
      (tail : Unescapes s w) : Unescapes (b :: s) (b :: w)
  | escape {c : Char} {e : List Char} {s w : Bytes} (head : SpellsChar c ('\\' :: e))
      (tail : Unescapes s w) :
      Unescapes (String.utf8EncodeChar c ++ s) (92 :: (Text.utf8 e ++ w))

/-- The reader goes up to the first quote that is not escaped. -/
theorem stringBytes_eq_ok_iff {soFar s : Bytes} : stringBytes soFar bs = .ok (s, r) ↔
    ∃ s' w, Unescapes s' w ∧ s = soFar.reverse ++ s' ∧ bs = w ++ 34 :: r := by
  constructor
  · intro h
    fun_induction stringBytes soFar bs with
    | case1 => cases h
    | case2 =>
      obtain ⟨rfl, rfl⟩ := Prod.mk.inj (Except.ok.inj h)
      exact ⟨[], [], .nil, by simp, by simp⟩
    | case3 => cases h
    | case4 soFar r' c r'' hescape _ ih =>
      obtain ⟨s', w, hw, rfl, rfl⟩ := ih h
      obtain ⟨e, hc, rfl⟩ := escape_eq_ok_iff.1 hescape
      exact ⟨_, _, .escape hc hw, by simp, by simp⟩
    | case5 => cases h
    | case6 soFar b r' hquote hbackslash hcontrol ih =>
      obtain ⟨s', w, hw, rfl, rfl⟩ := ih h
      exact ⟨_, _, .byte hquote hbackslash hcontrol hw, by simp, by simp⟩
  · rintro ⟨s', w, hw, rfl, rfl⟩
    induction hw generalizing soFar with
    | nil => simp [stringBytes]
    | byte quote backslash control tail ih =>
      rw [List.cons_append, stringBytes, if_neg quote, if_neg backslash, if_neg control, ih]
      simp
    | @escape c e s w head tail ih =>
      have hread := escape_eq_ok_iff.2
        ⟨e, head, (rfl : Text.utf8 e ++ (w ++ 34 :: r) = _)⟩
      rw [List.cons_append, List.append_assoc, stringBytes, if_neg (by decide), if_pos rfl]
      split
      · next heq =>
        rw [hread] at heq
        cases heq
      · next heq =>
        rw [hread] at heq
        cases heq
        rw [ih]
        simp

/-- Bytes that go on with a character are spelled by themselves. -/
theorem Unescapes.of_continues {s p w : Bytes} (hp : ∀ b ∈ p, Text.Continues b)
    (h : Unescapes (p ++ s) w) : ∃ w', w = p ++ w' ∧ Unescapes s w' := by
  induction p generalizing w with
  | nil => exact ⟨w, rfl, h⟩
  | cons b p ih =>
    have hb := hp b (List.mem_cons_self ..)
    generalize hs : b :: p ++ s = bytes at h
    cases h with
    | nil => cases hs
    | byte _ _ _ tail =>
      obtain ⟨rfl, rfl⟩ := List.cons.inj hs
      obtain ⟨w', rfl, hw'⟩ := ih (fun x hx => hp x (List.mem_cons_of_mem _ hx)) tail
      exact ⟨w', rfl, hw'⟩
    | @escape c e s' w head tail =>
      -- the first byte of a character does not go on with another
      obtain ⟨b', rest, hc, hfirst, -⟩ := Text.exists_utf8EncodeChar c
      rw [hc] at hs
      obtain ⟨rfl, -⟩ := List.cons.inj hs
      rw [Text.Continues] at hb
      omega

/-- Bytes above the control characters, but for the quote and the backslash, are spelled by
themselves. -/
theorem Unescapes.append {s p w : Bytes} (hp : ∀ b ∈ p, b ≠ 34 ∧ b ≠ 92 ∧ ¬ b < 32)
    (h : Unescapes s w) : Unescapes (p ++ s) (p ++ w) := by
  induction p with
  | nil => exact h
  | cons b p ih =>
    obtain ⟨quote, backslash, control⟩ := hp b (List.mem_cons_self ..)
    exact .byte quote backslash control (ih fun x hx => hp x (List.mem_cons_of_mem _ hx))

/-- A character can be spelled by itself if its first byte can. -/
theorem plain_iff {rest : Bytes} (hc : String.utf8EncodeChar c = b :: rest) :
    (0x20 ≤ c.toNat ∧ c ≠ '"' ∧ c ≠ '\\') ↔ b ≠ 34 ∧ b ≠ 92 ∧ ¬ b < 32 := by
  have hquote : c = '"' ↔ c.toNat = 34 := Char.toNat_inj.symm
  have hbackslash : c = '\\' ↔ c.toNat = 92 := Char.toNat_inj.symm
  have hquote' : b = 34 ↔ b.toNat = 34 := UInt8.toNat_inj.symm
  have hbackslash' : b = 92 ↔ b.toNat = 92 := UInt8.toNat_inj.symm
  have hcontrol : b < 32 ↔ b.toNat < 32 := UInt8.lt_iff_toNat_lt
  obtain ⟨b', rest', hc', hfirst, -⟩ := Text.exists_utf8EncodeChar c
  obtain ⟨rfl, rfl⟩ := List.cons.inj (hc.symm.trans hc')
  rw [Ne, Ne, Ne, Ne, hquote, hbackslash, hquote', hbackslash', hcontrol]
  omega

/-- The bytes of a character that is spelled by itself are. -/
theorem bytes_of_plain (control : 0x20 ≤ c.toNat) (quote : c ≠ '"') (backslash : c ≠ '\\') :
    ∀ b ∈ String.utf8EncodeChar c, b ≠ 34 ∧ b ≠ 92 ∧ ¬ b < 32 := by
  obtain ⟨first, rest, hc, -, hrest⟩ := Text.exists_utf8EncodeChar c
  rw [hc, List.forall_mem_cons]
  refine ⟨(plain_iff hc).1 ⟨control, quote, backslash⟩, fun b hb => ?_⟩
  have hcont := (hrest b hb).1
  refine ⟨?_, ?_, ?_⟩
  · rintro rfl
    exact absurd hcont (by decide)
  · rintro rfl
    exact absurd hcont (by decide)
  · rw [UInt8.lt_iff_toNat_lt]
    exact Nat.not_lt.2 (Nat.le_trans (by decide) hcont)

/-- **The bytes of a text** are spelled exactly as its characters are. -/
theorem unescapes_utf8_iff {w : Bytes} :
    Unescapes (Text.utf8 cs) w ↔ ∃ inner, SpellsChars cs inner ∧ w = Text.utf8 inner := by
  constructor
  · intro h
    induction cs generalizing w with
    | nil =>
      generalize hs : Text.utf8 [] = s at h
      cases h with
      | nil => exact ⟨[], .nil, rfl⟩
      | byte => cases hs
      | @escape c' =>
        obtain ⟨b, rest, hc, -⟩ := Text.exists_utf8EncodeChar c'
        rw [hc] at hs
        cases hs
    | cons c cs ih =>
      obtain ⟨b, rest, hc, -, hrest⟩ := Text.exists_utf8EncodeChar c
      generalize hs : Text.utf8 (c :: cs) = s at h
      rw [Text.utf8_cons] at hs
      cases h with
      | nil =>
        rw [hc] at hs
        cases hs
      | byte quote backslash control tail =>
        rw [hc] at hs
        obtain ⟨rfl, rfl⟩ := List.cons.inj hs
        obtain ⟨w', rfl, hw'⟩ := tail.of_continues hrest
        obtain ⟨inner, hinner, rfl⟩ := ih hw'
        obtain ⟨hcontrol, hquote, hbackslash⟩ := (plain_iff hc).2 ⟨quote, backslash, control⟩
        refine ⟨[c] ++ inner, .cons (.plain hcontrol hquote hbackslash) hinner, ?_⟩
        rw [List.cons_append, List.nil_append, Text.utf8_cons, hc]
        rfl
      | @escape c' e _ _ head tail =>
        obtain ⟨rfl, rfl⟩ := Text.eq_of_utf8EncodeChar_append hs
        obtain ⟨inner, hinner, rfl⟩ := ih tail
        refine ⟨'\\' :: e ++ inner, .cons head hinner, ?_⟩
        rw [Text.utf8_append]
        rfl
  · rintro ⟨inner, h, rfl⟩
    induction h with
    | nil => exact .nil
    | cons head tail ih =>
      rw [Text.utf8_cons, Text.utf8_append]
      cases head with
      | plain control quote backslash =>
        have hplain := ih.append (bytes_of_plain control quote backslash)
        rwa [Text.utf8_cons, Text.utf8_nil, List.append_nil]
      | letter hx => exact .escape (.letter hx) ih
      | code hcode => exact .escape (.code hcode) ih
      | pair large leading trailing => exact .escape (.pair large leading trailing) ih

/-- **A string is read up to a quote** exactly if it is spelled before it. -/
theorem string_eq_ok_iff : string bs = .ok (cs, r) ↔
    ∃ inner, SpellsChars cs inner ∧ bs = Text.utf8 inner ++ 34 :: r := by
  constructor
  · intro h
    unfold string at h
    split at h
    · cases h
    · next s r' hbytes =>
      obtain ⟨s', w, hw, rfl, rfl⟩ := stringBytes_eq_ok_iff.1 hbytes
      split at h
      · next cs' hutf8 =>
        obtain ⟨rfl, rfl⟩ := Prod.mk.inj (Except.ok.inj h)
        rw [Text.ofUtf8_eq_ok_iff] at hutf8
        obtain ⟨inner, hinner, rfl⟩ := unescapes_utf8_iff.1 (hutf8 ▸ hw)
        exact ⟨inner, hinner, rfl⟩
      · cases h
  · rintro ⟨inner, hinner, rfl⟩
    have hw := unescapes_utf8_iff.2 ⟨inner, hinner, rfl⟩
    have hbytes : stringBytes [] (Text.utf8 inner ++ 34 :: r) = .ok (Text.utf8 cs, r) :=
      stringBytes_eq_ok_iff.2 ⟨_, _, hw, rfl, rfl⟩
    have hutf8 := Text.ofUtf8_eq_ok_iff.2 (rfl : Text.utf8 cs = _)
    simp [string, hbytes, hutf8]

end Document
end FormulaGrid
