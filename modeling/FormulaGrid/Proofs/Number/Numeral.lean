/-
# Numerals as texts

Which texts are numerals is said by a grammar (`IsNumeral`):

    numeral  = sign mantissa exponent
    sign     = [ "+" | "-" ]
    mantissa = digits [ "." [ digits ] ] | "." digits
    exponent = [ ( "e" | "E" ) sign digits ]

Exactly these are read as numbers (`isSome_read?_iff`). The sign is looked for first, then the
digits up to the dot and those after it, and whatever is left has to be an exponent. No part of a
numeral begins like the one before it goes on, so the parts that are found are those of the grammar.

Number texts in general have words as well, for infinities and for what is not a number
(`IsNumberText`). They are the texts that are read when numerals and words are
(`isSome_ofText?_iff`). Numerals are the number texts that are made of the characters of numerals,
since every word has a letter that is none of these (`isNumeral_iff`).
-/

import Mathlib.Data.List.TakeWhile
import FormulaGrid.Number.Decimal
import FormulaGrid.Proofs.Formula.LetterCase

namespace FormulaGrid
namespace Number

open Formula (isDigit_of_mem_takeWhile toUpper_of_isDigit)

/-- **Digits,** at least one. -/
def IsDigits (cs : List Char) : Prop := cs ≠ [] ∧ ∀ c ∈ cs, c.isDigit = true

/-- **A sign** or none. -/
inductive IsSign : List Char → Prop
  | none : IsSign []
  | plus : IsSign ['+']
  | minus : IsSign ['-']

/-- **Digits with at most one dot,** which may stand before, between or after them. -/
inductive IsMantissa : List Char → Prop
  | whole {ds : List Char} (hds : IsDigits ds) : IsMantissa ds
  | dotted {ds fs : List Char} (hds : IsDigits ds) (hfs : ∀ c ∈ fs, c.isDigit = true) :
      IsMantissa (ds ++ '.' :: fs)
  | fraction {fs : List Char} (hfs : IsDigits fs) : IsMantissa ('.' :: fs)

/-- **A power of ten** or none. -/
inductive IsExponent : List Char → Prop
  | none : IsExponent []
  | power {e : Char} {sign ds : List Char} (he : e = 'e' ∨ e = 'E') (hsign : IsSign sign)
      (hds : IsDigits ds) : IsExponent (e :: (sign ++ ds))

/-- **A numeral:** a sign, a mantissa and an exponent. -/
inductive IsNumeral : List Char → Prop
  | parts {sign mantissa exponent : List Char} (hsign : IsSign sign)
      (hmantissa : IsMantissa mantissa) (hexponent : IsExponent exponent) :
      IsNumeral (sign ++ (mantissa ++ exponent))

/-- The words for infinity and for what is not a number, in upper case. -/
def numberWords : List String := ["INF", "INFINITY", "NAN"]

/-- **A text for a number:** a numeral, or one of the words with a sign, in either letter case. -/
inductive IsNumberText : List Char → Prop
  | numeral {cs : List Char} (h : IsNumeral cs) : IsNumberText cs
  | word {sign word : List Char} {name : String} (hsign : IsSign sign) (hname : name ∈ numberWords)
      (hword : word.map Char.toUpper = name.toList) : IsNumberText (sign ++ word)

variable {cs r ds sign mantissa exponent : List Char} {c : Char}

/-! ## Parts of a text -/

/-- Digits end where a text goes on with something else. -/
theorem takeWhile_isDigit_append (hds : ∀ c ∈ ds, c.isDigit = true)
    (hr : ∀ c ∈ r.head?, c.isDigit = false) :
    (ds ++ r).takeWhile Char.isDigit = ds ∧ (ds ++ r).dropWhile Char.isDigit = r := by
  rw [List.takeWhile_append_of_pos hds, List.dropWhile_append_of_pos hds]
  cases r with
  | nil => simp
  | cons c r => simp [hr c rfl]

/-- A sign is taken from the front of a text. -/
theorem exists_isSign_append (cs : List Char) :
    ∃ sign, IsSign sign ∧ cs = sign ++ (takeSign cs).2 := by
  fun_cases takeSign cs with
  | case1 r => exact ⟨_, .plus, rfl⟩
  | case2 r => exact ⟨_, .minus, rfl⟩
  | case3 => exact ⟨_, .none, rfl⟩

/-- And it is the whole sign, if no other one follows. -/
theorem takeSign_append (hsign : IsSign sign) (hr : ∀ c ∈ r.head?, c ≠ '+' ∧ c ≠ '-') :
    (takeSign (sign ++ r)).2 = r := by
  cases hsign with
  | plus | minus => rfl
  | none =>
    rw [List.nil_append]
    fun_cases takeSign r with
    | case1 r => exact absurd rfl (hr '+' rfl).1
    | case2 r => exact absurd rfl (hr '-' rfl).2
    | case3 => rfl

/-- Digits begin with a digit. -/
theorem IsDigits.isDigit_of_mem_head? (h : IsDigits ds) (hc : c ∈ (ds ++ r).head?) :
    c.isDigit = true := by
  obtain ⟨d, ds, rfl⟩ := List.exists_cons_of_ne_nil h.1
  obtain rfl : d = c := Option.some.inj hc
  exact h.2 d List.mem_cons_self

/-- A digit is no sign. -/
theorem ne_signs_of_isDigit (h : c.isDigit = true) : c ≠ '+' ∧ c ≠ '-' := by
  constructor <;> rintro rfl <;> cases h

/-- An exponent begins with its letter. -/
theorem exponent?_cons (e : Char) (r : List Char) : (exponent? (e :: r)).isSome = true ↔
    (e = 'e' ∨ e = 'E') ∧ IsDigits (takeSign r).2 := by
  have hletter : (e == 'e' || e == 'E') = true ↔ e = 'e' ∨ e = 'E' := by simp
  have hdigits : ∀ ds : List Char, (ds.isEmpty || !ds.all Char.isDigit) = false ↔ IsDigits ds := by
    simp [IsDigits]
  rw [exponent?, ← hletter]
  generalize takeSign r = parts
  obtain ⟨negative, ds⟩ := parts
  dsimp only
  rw [← hdigits]
  generalize (e == 'e' || e == 'E') = isLetter
  generalize (ds.isEmpty || !ds.all Char.isDigit) = isBad
  cases isLetter <;> cases isBad <;> simp

/-- **The end of a numeral is an exponent** or nothing. -/
theorem isSome_exponent?_iff : (exponent? cs).isSome = true ↔ IsExponent cs := by
  cases cs with
  | nil => exact iff_of_true rfl .none
  | cons e r =>
    rw [exponent?_cons]
    constructor
    · rintro ⟨he, hds⟩
      obtain ⟨sign, hsign, hr⟩ := exists_isSign_append r
      rw [hr]
      exact .power he hsign hds
    · intro h
      cases h with
      | power he hsign hds =>
        have hhead : ∀ c ∈ List.head? _, c ≠ '+' ∧ c ≠ '-' := fun c hc =>
          ne_signs_of_isDigit (hds.isDigit_of_mem_head? (r := []) (by rwa [List.append_nil]))
        rw [takeSign_append hsign hhead]
        exact ⟨he, hds⟩

/-- An exponent begins with neither a digit nor a dot. -/
theorem IsExponent.of_mem_head? (h : IsExponent exponent) (hc : c ∈ exponent.head?) :
    c.isDigit = false ∧ c ≠ '.' := by
  cases h with
  | none => cases hc
  | power he =>
    obtain rfl := Option.some.inj hc
    rcases he with rfl | rfl <;> decide

/-- A mantissa begins with a digit or a dot. -/
theorem IsMantissa.of_mem_head? (h : IsMantissa mantissa) (hc : c ∈ (mantissa ++ r).head?) :
    c.isDigit = true ∨ c = '.' := by
  cases h with
  | whole hds => exact .inl (hds.isDigit_of_mem_head? hc)
  | dotted hds =>
    rw [List.append_assoc] at hc
    exact .inl (hds.isDigit_of_mem_head? hc)
  | fraction => exact .inr (Option.some.inj hc).symm

/-! ## Numerals -/

/-- **The digits found at the front of a text,** with the dot among them, are a mantissa if there
are any. -/
theorem exists_isMantissa_append (r : List Char)
    (h : r.takeWhile Char.isDigit ≠ [] ∨ (takeFraction (r.dropWhile Char.isDigit)).1 ≠ []) :
    ∃ mantissa, IsMantissa mantissa ∧
      r = mantissa ++ (takeFraction (r.dropWhile Char.isDigit)).2 := by
  -- from here on only the two parts matter, and what the first one is made of
  have hsplit := List.takeWhile_append_dropWhile (p := Char.isDigit) (l := r)
  have hwhole : ∀ c ∈ r.takeWhile Char.isDigit, c.isDigit = true :=
    fun _ => isDigit_of_mem_takeWhile
  generalize r.takeWhile Char.isDigit = whole at h hsplit hwhole
  generalize r.dropWhile Char.isDigit = q at h hsplit
  subst hsplit
  revert h
  fun_cases takeFraction q with
  | case1 q =>
    intro h
    have hfraction : ∀ c ∈ q.takeWhile Char.isDigit, c.isDigit = true :=
      fun _ => isDigit_of_mem_takeWhile
    refine ⟨whole ++ '.' :: q.takeWhile Char.isDigit, ?_, ?_⟩
    · by_cases hne : whole = []
      · subst hne
        exact .fraction ⟨h.resolve_left (by simp), hfraction⟩
      · exact .dotted ⟨hne, hwhole⟩ hfraction
    · simp [List.takeWhile_append_dropWhile]
  | case2 =>
    intro h
    exact ⟨whole, .whole ⟨h.resolve_right (by simp), hwhole⟩, rfl⟩

/-- **And the whole mantissa is found** in front of an exponent. -/
theorem takeFraction_append (hmantissa : IsMantissa mantissa) (hexponent : IsExponent exponent) :
    ((mantissa ++ exponent).takeWhile Char.isDigit ≠ [] ∨
      (takeFraction ((mantissa ++ exponent).dropWhile Char.isDigit)).1 ≠ []) ∧
    (takeFraction ((mantissa ++ exponent).dropWhile Char.isDigit)).2 = exponent := by
  have hdot : ∀ fs : List Char, (∀ c ∈ fs, c.isDigit = true) →
      takeFraction ('.' :: fs ++ exponent) = (fs, exponent) := by
    intro fs hfs
    have hparts := takeWhile_isDigit_append hfs fun c hc => (hexponent.of_mem_head? hc).1
    rw [List.cons_append, takeFraction, hparts.1, hparts.2]
  cases hmantissa with
  | whole hds =>
    obtain ⟨hwhole, hrest⟩ :=
      takeWhile_isDigit_append hds.2 fun c hc => (hexponent.of_mem_head? hc).1
    rw [hwhole, hrest]
    refine ⟨.inl hds.1, ?_⟩
    -- a dot after the digits would have been theirs
    fun_cases takeFraction exponent with
    | case1 => exact absurd rfl (hexponent.of_mem_head? rfl).2
    | case2 => rfl
  | @dotted ds fs hds hfs =>
    have hstop : ∀ c ∈ ('.' :: fs ++ exponent).head?, c.isDigit = false := by
      rintro c ⟨⟩
      rfl
    obtain ⟨hwhole, hrest⟩ := takeWhile_isDigit_append hds.2 hstop
    rw [List.append_assoc, hwhole, hrest, hdot fs hfs]
    exact ⟨.inl hds.1, rfl⟩
  | @fraction fs hfs =>
    have hrest : ('.' :: fs ++ exponent).dropWhile Char.isDigit = '.' :: fs ++ exponent := rfl
    rw [hrest, hdot fs hfs.2]
    exact ⟨.inr hfs.1, rfl⟩

/-- A text is read as a number if there are digits after its sign, and an exponent after them. -/
theorem isSome_read? (cs : List Char) : (read? cs).isSome = true ↔
    ((takeSign cs).2.takeWhile Char.isDigit ≠ [] ∨
      (takeFraction ((takeSign cs).2.dropWhile Char.isDigit)).1 ≠ []) ∧
    (exponent? (takeFraction ((takeSign cs).2.dropWhile Char.isDigit)).2).isSome = true := by
  rw [read?]
  dsimp only
  generalize (takeSign cs).2.takeWhile Char.isDigit = whole
  generalize takeFraction ((takeSign cs).2.dropWhile Char.isDigit) = parts
  obtain ⟨fraction, rest⟩ := parts
  cases whole with
  | nil =>
    cases fraction <;> cases exponent? rest <;> simp
  | cons => cases exponent? rest <;> simp

/-- **Numerals are read as numbers,** and nothing else is. -/
theorem isSome_read?_iff : (read? cs).isSome = true ↔ IsNumeral cs := by
  rw [isSome_read?, isSome_exponent?_iff]
  constructor
  · rintro ⟨hdigits, hexponent⟩
    obtain ⟨sign, hsign, hcs⟩ := exists_isSign_append cs
    obtain ⟨mantissa, hmantissa, hr⟩ := exists_isMantissa_append _ hdigits
    rw [hcs, hr]
    exact .parts hsign hmantissa hexponent
  · rintro @⟨sign, mantissa, exponent, hsign, hmantissa, hexponent⟩
    have hhead : ∀ c ∈ (mantissa ++ exponent).head?, c ≠ '+' ∧ c ≠ '-' := fun c hc =>
      (hmantissa.of_mem_head? hc).elim ne_signs_of_isDigit (by rintro rfl; decide)
    rw [takeSign_append hsign hhead]
    obtain ⟨hdigits, hrest⟩ := takeFraction_append hmantissa hexponent
    rw [hrest]
    exact ⟨hdigits, hexponent⟩

instance : DecidablePred IsNumeral := fun _ => decidable_of_iff _ isSome_read?_iff

/-! ## Words -/

/-- **The words are the three,** in either letter case. -/
theorem isSome_word?_iff :
    (word? cs).isSome = true ↔ String.ofList (cs.map Char.toUpper) ∈ numberWords := by
  rw [word?, numberWords]
  generalize String.ofList (cs.map Char.toUpper) = s
  split
  · simp [*]
  · split
    · simp [*]
    · split <;> simp [*]

/-- A word begins with none of the signs. -/
theorem ne_signs_of_numberWords {word : List Char} {name : String} (hname : name ∈ numberWords)
    (hword : word.map Char.toUpper = name.toList) (hc : c ∈ word.head?) : c ≠ '+' ∧ c ≠ '-' := by
  have hnames : ∀ name ∈ numberWords, '+' ∉ name.toList ∧ '-' ∉ name.toList := by decide
  obtain ⟨hplus, hminus⟩ := hnames name hname
  have hmem : c.toUpper ∈ name.toList :=
    hword ▸ List.mem_map_of_mem (List.mem_of_mem_head? hc)
  constructor
  · rintro rfl
    exact hplus hmem
  · rintro rfl
    exact hminus hmem

/-- **Number texts are read,** and nothing else is. -/
theorem isSome_ofText?_iff : (ofText? cs).isSome = true ↔ IsNumberText cs := by
  have hsplit : (ofText? cs).isSome = true ↔
      (read? cs).isSome = true ∨ (word? (takeSign cs).2).isSome = true := by
    rw [ofText?]
    generalize takeSign cs = parts
    obtain ⟨negative, r⟩ := parts
    cases read? cs <;> cases hword : word? r <;> simp [hword]
  rw [hsplit, isSome_read?_iff, isSome_word?_iff]
  constructor
  · rintro (h | hname)
    · exact .numeral h
    · obtain ⟨sign, hsign, hcs⟩ := exists_isSign_append cs
      rw [hcs]
      exact .word hsign hname String.toList_ofList.symm
  · intro h
    cases h with
    | numeral h => exact .inl h
    | word hsign hname hword =>
      rw [takeSign_append hsign fun c => ne_signs_of_numberWords hname hword, hword,
        String.ofList_toList]
      exact .inr hname

/-- A numeral has the value that it is read with. -/
theorem ofText?_of_read? {x : Float} (h : read? cs = some x) : ofText? cs = some x := by
  rw [ofText?, h]

/-! ## Characters -/

/-- Signs are characters of numerals. -/
theorem IsSign.isNumeralChar (h : IsSign sign) : ∀ c ∈ sign, isNumeralChar c = true := by
  cases h with
  | none => exact List.forall_mem_nil _
  | plus | minus => exact List.forall_mem_singleton.2 rfl

/-- Digits are characters of numerals. -/
theorem isNumeralChar_of_isDigit (h : c.isDigit = true) : isNumeralChar c = true := by
  rw [isNumeralChar, h, Bool.true_or]

/-- A numeral is made of the characters of numerals. -/
theorem IsNumeral.isNumeralChar (h : IsNumeral cs) : ∀ c ∈ cs, isNumeralChar c = true := by
  have hdot : Number.isNumeralChar '.' = true := rfl
  obtain ⟨hsign, hmantissa, hexponent⟩ := h
  simp only [List.forall_mem_append]
  refine ⟨hsign.isNumeralChar, ?_, ?_⟩
  · cases hmantissa with
    | whole hds => exact fun c hc => isNumeralChar_of_isDigit (hds.2 c hc)
    | dotted hds hfs =>
      rw [List.forall_mem_append, List.forall_mem_cons]
      exact ⟨fun c hc => isNumeralChar_of_isDigit (hds.2 c hc), hdot,
        fun c hc => isNumeralChar_of_isDigit (hfs c hc)⟩
    | fraction hfs =>
      rw [List.forall_mem_cons]
      exact ⟨hdot, fun c hc => isNumeralChar_of_isDigit (hfs.2 c hc)⟩
  · cases hexponent with
    | none => simp
    | power he hsign hds =>
      rw [List.forall_mem_cons, List.forall_mem_append]
      refine ⟨?_, hsign.isNumeralChar, fun c hc => isNumeralChar_of_isDigit (hds.2 c hc)⟩
      rcases he with rfl | rfl <;> rfl

/-- The letter `N` in either case is no character of numerals. -/
theorem toUpper_ne_of_isNumeralChar (h : isNumeralChar c = true) : c.toUpper ≠ 'N' := by
  rcases Bool.or_eq_true_iff.1 h with hdigit | hmem
  · rw [toUpper_of_isDigit hdigit]
    rintro rfl
    cases hdigit
  · have hothers := of_decide_eq_true hmem
    simp only [List.mem_cons, List.not_mem_nil, or_false] at hothers
    rcases hothers with rfl | rfl | rfl | rfl | rfl <;> decide

/-- **Numerals are the number texts without other characters,** since every word has an `N`. -/
theorem isNumeral_iff :
    IsNumeral cs ↔ IsNumberText cs ∧ ∀ c ∈ cs, isNumeralChar c = true := by
  constructor
  · exact fun h => ⟨.numeral h, h.isNumeralChar⟩
  · rintro ⟨h, hchars⟩
    cases h with
    | numeral h => exact h
    | @word sign word name hsign hname hword =>
      have hnames : ∀ name ∈ numberWords, 'N' ∈ name.toList := by decide
      have hletter : 'N' ∈ word.map Char.toUpper := hword ▸ hnames name hname
      obtain ⟨c, hc, hupper⟩ := List.mem_map.1 hletter
      exact absurd hupper (toUpper_ne_of_isNumeralChar (hchars c (List.mem_append_right _ hc)))

/-- A dot may stand anywhere among the digits, but neither it nor a sign can do without them. -/
example : (∀ s ∈ ["7", "+7.", "-.5", "007.50e-3"], IsNumeral s.toList) ∧
    ∀ s ∈ ["", "-", ".", "e3", "1e", "1.2.3", "--1", "1_0", "1 0", "Inf", "nan"],
      ¬ IsNumeral s.toList := by decide +kernel

end Number
end FormulaGrid
