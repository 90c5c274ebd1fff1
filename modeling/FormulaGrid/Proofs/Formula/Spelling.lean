/-
# How tokens are spelled

| token | lexeme |
| --- | --- |
| `number` | digits, and perhaps a dot and more digits, that read as the number |
| `cell` | letters and then digits, in either case; the name is the word in upper case |
| a keyword's | the keyword in either case (`keywords`) |
| any other | one sign or a pair of them (`signs`) |

Digits, with or without a dot and a fraction, are a numeral, so they always read as a number
(`read?_of_digits`). Where a digit stands there is therefore a token, and digits are never refused
(`tokenAt_of_isDigit`).

**The token found at the front of a text is spelled by the characters that it takes, and no token is
spelled by more of them** (`takes_of_tokenAt`). Where none is found, either the first character
begins no lexeme, or the letters and digits up to the next other character are none
(`refused_of_tokenAt`), though a part of them may be.
-/

import Mathlib.Data.List.TakeWhile
import FormulaGrid.Proofs.Address.Name
import FormulaGrid.Proofs.Formula.LetterCase
import FormulaGrid.Proofs.Number.Numeral

namespace FormulaGrid

namespace Number

/-- **What may follow the digits of a number:** nothing, or a dot and perhaps digits. -/
def IsFraction (cs : List Char) : Prop :=
  cs = [] ∨ ∃ ds, cs = '.' :: ds ∧ ∀ c ∈ ds, c.isDigit = true

/-- **Digits are a numeral,** also with a fraction after them. -/
theorem read?_of_digits {whole fraction : List Char} (hne : whole ≠ [])
    (hwhole : ∀ c ∈ whole, c.isDigit = true) (hfraction : IsFraction fraction) :
    read? (whole ++ fraction) = some (ofDigits whole (fraction.drop 1) 0) := by
  have hsign : takeSign (whole ++ fraction) = (false, whole ++ fraction) := by
    obtain ⟨c, r, rfl⟩ := List.exists_cons_of_ne_nil hne
    obtain ⟨hplus, hminus⟩ := ne_signs_of_isDigit (hwhole c (List.mem_cons_self ..))
    simp [takeSign, hplus, hminus]
  have hstop : ∀ c ∈ fraction.head?, c.isDigit = false := by
    intro c hc
    rcases hfraction with rfl | ⟨ds, rfl, -⟩
    · cases hc
    · rw [← Option.some.inj hc]
      rfl
  have hwholes := takeWhile_isDigit_append hwhole hstop
  have htake : takeFraction fraction = (fraction.drop 1, []) := by
    rcases hfraction with rfl | ⟨ds, rfl, hds⟩
    · rfl
    · rw [takeFraction, List.takeWhile_eq_self_iff.2 hds, List.dropWhile_eq_nil_iff.2 hds]
      rfl
  have hsome : whole.isEmpty = false := by simpa using hne
  simp [read?, hsign, hwholes.1, hwholes.2, htake, hsome, exponent?]

end Number

namespace Formula

/-- The words that are tokens of their own, in upper case. -/
def keywords : List (String × Token) :=
  [("MOD", .mod), ("DIV", .div), ("INC", .increment), ("DEC", .decrement), ("MMIN", .mmin),
    ("MMAX", .mmax)]

/-- The operators, parentheses and the comma. -/
def signs : List (String × Token) :=
  [("++", .increment), ("--", .decrement), ("+", .plus), ("-", .minus), ("*", .times),
    ("/", .divide), ("^", .power), ("%", .percent), ("(", .leftParen), (")", .rightParen),
    (",", .comma)]

/-- **The lexemes of a token.** -/
inductive Token.SpelledAs : Token → List Char → Prop
  | number {x : Float} {whole fraction : List Char} (hne : whole ≠ [])
      (hwhole : ∀ c ∈ whole, c.isDigit = true) (hfraction : Number.IsFraction fraction)
      (hx : Number.read? (whole ++ fraction) = some x) : SpelledAs (.number x) (whole ++ fraction)
  | keyword {name : String} {token : Token} {word : List Char} (hmem : (name, token) ∈ keywords)
      (hword : word.map Char.toUpper = name.toList) : SpelledAs token word
  | cell {letters digits : List Char} (hletters : letters ≠ []) (hdigits : digits ≠ [])
      (halpha : ∀ c ∈ letters, c.isAlpha = true) (hdigit : ∀ c ∈ digits, c.isDigit = true) :
      SpelledAs (.cell (String.ofList ((letters ++ digits).map Char.toUpper))) (letters ++ digits)
  | sign {name : String} {token : Token} (hmem : (name, token) ∈ signs) :
      SpelledAs token name.toList

/-- **A token takes its lexeme from the front of a text:** the longest lexeme there is. -/
structure Token.Takes (token : Token) (lexeme rest : List Char) : Prop where
  spelled : token.SpelledAs lexeme
  longest : ∀ (other : Token) (front : List Char), other.SpelledAs front →
    front <+: lexeme ++ rest → front.length ≤ lexeme.length

/-- **A text that begins with no token,** and the complaint about it. -/
inductive Refused : List Char → Complaint → Prop
  /-- The first character begins no lexeme. -/
  | character {c : Char} {r : List Char}
      (hnone : ∀ (token : Token) (front : List Char), token.SpelledAs front → ¬ front <+: c :: r) :
      Refused (c :: r) (.unexpectedCharacter c)
  /-- The letters and digits up to the next other character are no lexeme. -/
  | word {c : Char} {r : List Char} (halpha : c.isAlpha = true)
      (hnone : ∀ token : Token, ¬ token.SpelledAs (c :: r.takeWhile Char.isAlphanum)) :
      Refused (c :: r)
        (.unknownWord (String.ofList ((c :: r.takeWhile Char.isAlphanum).map Char.toUpper)))

variable {token : Token} {lexeme front word r cs : List Char} {c : Char} {n : Nat}
  {complaint : Complaint}

/-! ## Lexemes by their first character -/

/-- A lexeme is digits with a fraction, a word of letters and digits, or one of the signs. -/
theorem Token.SpelledAs.cases (h : token.SpelledAs lexeme) :
    (∃ whole fraction, lexeme = whole ++ fraction ∧ whole ≠ [] ∧
      (∀ c ∈ whole, c.isDigit = true) ∧ Number.IsFraction fraction) ∨
    ((∃ c, lexeme.head? = some c ∧ c.isAlpha = true) ∧ ∀ c ∈ lexeme, c.isAlphanum = true) ∨
    ∃ name, lexeme = name.toList ∧ (name, token) ∈ signs := by
  cases h with
  | number hne hwhole hfraction hx => exact .inl ⟨_, _, rfl, hne, hwhole, hfraction⟩
  | keyword hmem hword =>
    have hnames : ∀ p ∈ keywords, p.1.toList.head?.any Char.isAlpha = true ∧
        p.1.toList.all Char.isAlphanum = true := by decide
    obtain ⟨hhead, hall⟩ := hnames _ hmem
    rw [← hword, List.head?_map, Option.any_map] at hhead
    rw [← hword, List.all_map] at hall
    obtain ⟨c, hc, halpha⟩ := (Option.any_eq_true _ _).1 hhead
    exact .inr (.inl ⟨⟨c, hc, isAlpha_toUpper c ▸ halpha⟩, fun d hd =>
      isAlphanum_toUpper d ▸ List.all_eq_true.1 hall d hd⟩)
  | cell hletters hdigits halpha hdigit =>
    obtain ⟨c, r, rfl⟩ := List.exists_cons_of_ne_nil hletters
    refine .inr (.inl ⟨⟨c, rfl, halpha c (List.mem_cons_self ..)⟩, fun d hd => ?_⟩)
    rw [Char.isAlphanum, Bool.or_eq_true]
    exact (List.mem_append.1 hd).imp (halpha d) (hdigit d)
  | sign hmem => exact .inr (.inr ⟨_, rfl, hmem⟩)

/-- A lexeme has a first character. -/
theorem Token.SpelledAs.ne_nil (h : token.SpelledAs lexeme) : lexeme ≠ [] := by
  rintro rfl
  rcases h.cases with ⟨whole, fraction, heq, hne, -⟩ | ⟨⟨c, hc, -⟩, -⟩ | ⟨name, heq, hmem⟩
  · exact hne (List.append_eq_nil_iff.1 heq.symm).1
  · cases hc
  · have hnames : ∀ p ∈ signs, p.1.toList ≠ [] := by decide
    exact hnames _ hmem heq.symm

/-- At the front of a text it is the first character of the text. -/
theorem Token.SpelledAs.head?_eq (h : token.SpelledAs front) (hfront : front <+: c :: r) :
    front.head? = some c := by
  obtain ⟨d, front', rfl⟩ := List.exists_cons_of_ne_nil h.ne_nil
  rw [(List.cons_prefix_cons.1 hfront).1]
  rfl

/-- A letter is no digit. -/
theorem not_isDigit_of_isAlpha (hc : c.isAlpha = true) : ¬ c.isDigit = true := fun hdigit => by
  rw [Address.isAlpha_of_isDigit hdigit] at hc
  cases hc

/-- A sign begins with neither a digit nor a letter. -/
theorem not_isDigit_and_not_isAlpha_of_mem_signs {name : String} (hmem : (name, token) ∈ signs)
    (hc : name.toList.head? = some c) : ¬ c.isDigit = true ∧ ¬ c.isAlpha = true := by
  have hnames : ∀ p ∈ signs,
      p.1.toList.head?.all (fun c => !c.isDigit && !c.isAlpha) = true := by decide
  have hname := hnames _ hmem
  rw [hc] at hname
  simpa using hname

/-- A lexeme that begins with a digit is digits with a fraction. -/
theorem Token.SpelledAs.of_isDigit (h : token.SpelledAs lexeme) (hhead : lexeme.head? = some c)
    (hc : c.isDigit = true) : ∃ whole fraction, lexeme = whole ++ fraction ∧
      (∀ c ∈ whole, c.isDigit = true) ∧ Number.IsFraction fraction := by
  rcases h.cases with ⟨whole, fraction, heq, -, hwhole, hfraction⟩ | ⟨⟨d, hd, halpha⟩, -⟩ |
    ⟨name, rfl, hmem⟩
  · exact ⟨whole, fraction, heq, hwhole, hfraction⟩
  · cases hhead.symm.trans hd
    exact absurd hc (not_isDigit_of_isAlpha halpha)
  · exact absurd hc (not_isDigit_and_not_isAlpha_of_mem_signs hmem hhead).1

/-- A lexeme that begins with a letter is a word. -/
theorem Token.SpelledAs.of_isAlpha (h : token.SpelledAs lexeme) (hhead : lexeme.head? = some c)
    (hc : c.isAlpha = true) : ∀ d ∈ lexeme, d.isAlphanum = true := by
  rcases h.cases with ⟨whole, fraction, rfl, hne, hwhole, -⟩ | ⟨-, hall⟩ | ⟨name, rfl, hmem⟩
  · obtain ⟨d, whole, rfl⟩ := List.exists_cons_of_ne_nil hne
    cases hhead
    exact absurd (hwhole _ (List.mem_cons_self ..)) (not_isDigit_of_isAlpha hc)
  · exact hall
  · exact absurd hc (not_isDigit_and_not_isAlpha_of_mem_signs hmem hhead).2

/-- A lexeme that begins with any other character is a sign. -/
theorem Token.SpelledAs.of_sign (h : token.SpelledAs lexeme) (hhead : lexeme.head? = some c)
    (hdigit : ¬ c.isDigit = true) (halpha : ¬ c.isAlpha = true) :
    ∃ name, lexeme = name.toList ∧ (name, token) ∈ signs := by
  rcases h.cases with ⟨whole, fraction, rfl, hne, hwhole, -⟩ | ⟨⟨d, hd, hd'⟩, -⟩ | hsign
  · obtain ⟨d, whole, rfl⟩ := List.exists_cons_of_ne_nil hne
    cases hhead
    exact absurd (hwhole _ (List.mem_cons_self ..)) hdigit
  · cases hhead.symm.trans hd
    exact absurd hd' halpha
  · exact hsign

/-! ## Numbers -/

/-- What has a property throughout is taken from the front of a text by it. -/
theorem length_le_takeWhile {p : Char → Bool} (h : ∀ c ∈ front, p c = true)
    (hfront : front <+: cs) : front.length ≤ (cs.takeWhile p).length := by
  obtain ⟨rest, rfl⟩ := hfront
  rw [List.takeWhile_append_of_pos h, List.length_append]
  exact Nat.le_add_right ..

/-- A fraction at the front of a text is taken. -/
theorem length_le_fractionLength (h : Number.IsFraction front) (hfront : front <+: cs) :
    front.length ≤ fractionLength cs := by
  rcases h with rfl | ⟨ds, rfl, hds⟩
  · exact Nat.zero_le _
  · obtain ⟨rest, rfl⟩ := hfront
    have hle := length_le_takeWhile hds (List.prefix_append ds rest)
    rw [List.cons_append, fractionLength, List.length_cons]
    omega

/-- What is taken as a fraction is one. -/
theorem isFraction_take (cs : List Char) : Number.IsFraction (cs.take (fractionLength cs)) := by
  fun_cases fractionLength cs with
  | case1 r =>
    exact .inr ⟨r.takeWhile Char.isDigit, take_dot r, fun _ => isDigit_of_mem_takeWhile⟩
  | case2 => exact .inl List.take_zero

/-- **Digits and a fraction end** where the digits and the fraction taken end. -/
theorem length_le_of_digits {whole fraction : List Char} (hwhole : ∀ c ∈ whole, c.isDigit = true)
    (hfraction : Number.IsFraction fraction) (hfront : whole ++ fraction <+: cs) :
    (whole ++ fraction).length ≤
      (cs.takeWhile Char.isDigit).length + fractionLength (cs.dropWhile Char.isDigit) := by
  obtain ⟨rest, rfl⟩ := hfront
  rw [List.append_assoc, List.takeWhile_append_of_pos hwhole, List.dropWhile_append_of_pos hwhole,
    List.length_append, List.length_append]
  rcases hfraction with rfl | hdot
  · rw [List.length_nil]
    omega
  · obtain ⟨ds, rfl, -⟩ := id hdot
    -- the dot ends the digits
    have hstop : ¬ Char.isDigit '.' = true := by decide
    have hle := length_le_fractionLength (.inr hdot) (List.prefix_append _ rest)
    rw [List.cons_append, List.takeWhile_cons_of_neg hstop, List.dropWhile_cons_of_neg hstop]
    exact Nat.add_le_add_left hle _

/-! ## Words -/

/-- A word in upper case has the shape of a name if it has it as it is. -/
theorem isCellName_map_toUpper (word : List Char) :
    isCellName (word.map Char.toUpper) = isCellName word := by
  have hall : ∀ cs : List Char, (cs.map Char.toUpper).all Char.isDigit = cs.all Char.isDigit := by
    intro cs
    rw [List.all_map]
    exact congrArg cs.all (funext isDigit_toUpper)
  rw [isCellName, isCellName, takeWhile_map_toUpper isAlpha_toUpper,
    dropWhile_map_toUpper isAlpha_toUpper]
  simp only [hall, List.isEmpty_map]

/-- Letters and then digits have the shape of a name, and nothing else has. -/
theorem isCellName_eq_true_iff : isCellName word = true ↔
    ∃ letters digits, word = letters ++ digits ∧ letters ≠ [] ∧ digits ≠ [] ∧
      (∀ c ∈ letters, c.isAlpha = true) ∧ ∀ c ∈ digits, c.isDigit = true := by
  constructor
  · intro h
    obtain ⟨hletters, hdigits, hdigit⟩ : word.takeWhile Char.isAlpha ≠ [] ∧
        word.dropWhile Char.isAlpha ≠ [] ∧ ∀ c ∈ word.dropWhile Char.isAlpha, c.isDigit = true := by
      simpa [isCellName, and_assoc] using h
    exact ⟨_, _, List.takeWhile_append_dropWhile.symm, hletters, hdigits,
      List.all_eq_true.1 List.all_takeWhile, hdigit⟩
  · rintro ⟨letters, digits, rfl, hletters, hdigits, halpha, hdigit⟩
    obtain ⟨d, r, rfl⟩ := List.exists_cons_of_ne_nil hdigits
    have hd : ¬ d.isAlpha = true := by
      simp [Address.isAlpha_of_isDigit (hdigit d (List.mem_cons_self ..))]
    have hall : (d :: r).all Char.isDigit = true := List.all_eq_true.2 hdigit
    simp only [isCellName, List.takeWhile_append_of_pos halpha, List.dropWhile_append_of_pos halpha,
      List.takeWhile_cons_of_neg hd, List.dropWhile_cons_of_neg hd, hall]
    simpa using hletters

/-- **The token of a word** is that of the keyword that it is, or else the name. -/
theorem wordToken_eq_ok_iff : wordToken word = .ok token ↔
    (String.ofList word, token) ∈ keywords ∨
      isCellName word = true ∧ token = .cell (String.ofList word) := by
  constructor
  · fun_cases wordToken word with
    | case7 =>
      rename_i hcell
      rintro ⟨⟩
      exact .inr ⟨hcell, rfl⟩
    | case8 => exact nofun
    | _ =>
      rename_i hs
      rintro ⟨⟩
      rw [show String.ofList word = _ from hs]
      simp [keywords]
  · rintro (hmem | ⟨hcell, rfl⟩)
    · simp only [keywords, List.mem_cons, Prod.mk.injEq, List.not_mem_nil, or_false] at hmem
      rcases hmem with ⟨hs, rfl⟩ | ⟨hs, rfl⟩ | ⟨hs, rfl⟩ | ⟨hs, rfl⟩ | ⟨hs, rfl⟩ | ⟨hs, rfl⟩ <;>
        simp [wordToken, hs]
    · -- no keyword has digits at its end
      have hnames : ∀ p ∈ keywords, isCellName p.1.toList = false := by decide
      have hne : ∀ p ∈ keywords, String.ofList word ≠ p.1 := by
        intro p hp hs
        have hno := hnames p hp
        rw [← hs, String.toList_ofList, hcell] at hno
        cases hno
      simp only [keywords, List.forall_mem_cons] at hne
      simp [wordToken, hne, hcell]

/-- **A word that is read is a lexeme of its token,** and no other word of letters is one. -/
theorem wordToken_eq_ok_iff_spelledAs (hc : c.isAlpha = true) :
    wordToken ((c :: r).map Char.toUpper) = .ok token ↔ token.SpelledAs (c :: r) := by
  rw [wordToken_eq_ok_iff, isCellName_map_toUpper]
  constructor
  · rintro (hmem | ⟨hcell, rfl⟩)
    · exact .keyword hmem String.toList_ofList.symm
    · obtain ⟨letters, digits, heq, hletters, hdigits, halpha, hdigit⟩ :=
        isCellName_eq_true_iff.1 hcell
      rw [heq]
      exact .cell hletters hdigits halpha hdigit
  · intro h
    generalize hword : c :: r = word at h
    have hhead : word.head? = some c := by rw [← hword]; rfl
    cases h with
    | number hne hwhole =>
      obtain ⟨d, whole, rfl⟩ := List.exists_cons_of_ne_nil hne
      cases hhead
      exact absurd (hwhole _ (List.mem_cons_self ..)) (not_isDigit_of_isAlpha hc)
    | keyword hmem hname =>
      rw [hname, String.ofList_toList]
      exact .inl hmem
    | cell hletters hdigits halpha hdigit =>
      exact .inr ⟨isCellName_eq_true_iff.2 ⟨_, _, rfl, hletters, hdigits, halpha, hdigit⟩, rfl⟩
    | sign hmem => exact absurd hc (not_isDigit_and_not_isAlpha_of_mem_signs hmem hhead).2

/-! ## Tokens -/

/-- A token takes as many characters as no lexeme at the front of the text is longer than. -/
theorem takes_of_length_le (hn : n ≤ r.length) (hspelled : token.SpelledAs (c :: r.take n))
    (hlongest : ∀ (other : Token) (front : List Char), other.SpelledAs front →
      front <+: c :: r → front.length ≤ n + 1) : token.Takes (c :: r.take n) (r.drop n) := by
  refine ⟨hspelled, fun other front hother hfront => ?_⟩
  rw [List.cons_append, List.take_append_drop] at hfront
  rw [List.length_cons, List.length_take, Nat.min_eq_left hn]
  exact hlongest other front hother hfront

/-- **Where a digit stands, a number is read,** and there is no complaint about its digits. -/
theorem tokenAt_of_isDigit (hc : c.isDigit = true) (r : List Char) :
    let more := r.takeWhile Char.isDigit
    let after := r.dropWhile Char.isDigit
    tokenAt c r = .ok (.number (Number.ofDigits (c :: more)
      ((after.take (fractionLength after)).drop 1) 0), more.length + fractionLength after) := by
  intro more after
  have hmore : ∀ d ∈ c :: more, d.isDigit = true :=
    List.forall_mem_cons.2 ⟨hc, fun _ => isDigit_of_mem_takeWhile⟩
  have hread := Number.read?_of_digits (List.cons_ne_nil _ _) hmore (isFraction_take after)
  rw [tokenAt, if_pos hc]
  dsimp only
  rw [numberToken, Number.ofText?_of_read? hread]
  rfl

/-- A number is spelled by its digits and their fraction. -/
theorem spelledAs_number (hc : c.isDigit = true) (h : tokenAt c r = .ok (token, n)) :
    token.SpelledAs (c :: r.take n) := by
  rw [tokenAt_of_isDigit hc] at h
  cases h
  have hsplit := List.takeWhile_append_dropWhile (p := Char.isDigit) (l := r)
  have hmore : ∀ d ∈ c :: r.takeWhile Char.isDigit, d.isDigit = true :=
    List.forall_mem_cons.2 ⟨hc, fun _ => isDigit_of_mem_takeWhile⟩
  generalize r.takeWhile Char.isDigit = more at hsplit hmore ⊢
  generalize r.dropWhile Char.isDigit = after at hsplit ⊢
  subst hsplit
  have hfraction := isFraction_take after
  rw [List.take_length_add_append, ← List.cons_append]
  exact .number (List.cons_ne_nil _ _) hmore hfraction
    (Number.read?_of_digits (List.cons_ne_nil _ _) hmore hfraction)

/-- Where a letter stands, a word is read up to the next character that is neither letter nor
digit. -/
theorem tokenAt_of_isAlpha (hc : c.isAlpha = true) (r : List Char) :
    tokenAt c r = (wordToken ((c :: r.takeWhile Char.isAlphanum).map Char.toUpper)).map
      fun token => (token, (r.takeWhile Char.isAlphanum).length) := by
  rw [tokenAt, if_neg (not_isDigit_of_isAlpha hc), if_pos hc]
  dsimp only
  cases wordToken ((c :: r.takeWhile Char.isAlphanum).map Char.toUpper) <;> rfl

/-- A word is spelled by its letters and digits. -/
theorem spelledAs_word (hc : c.isAlpha = true) (h : tokenAt c r = .ok (token, n)) :
    n = (r.takeWhile Char.isAlphanum).length ∧ token.SpelledAs (c :: r.take n) := by
  rw [tokenAt_of_isAlpha hc] at h
  cases hword : wordToken ((c :: r.takeWhile Char.isAlphanum).map Char.toUpper) with
  | error complaint =>
    rw [hword] at h
    cases h
  | ok token =>
    rw [hword] at h
    cases h
    rw [← List.prefix_iff_eq_take.1 (List.takeWhile_prefix Char.isAlphanum)]
    exact ⟨rfl, (wordToken_eq_ok_iff_spelledAs hc).1 hword⟩

/-- A pair of signs, or one that is a token. -/
theorem sign_cases {name : String} (hmem : (name, token) ∈ signs) :
    name.toList = ['+', '+'] ∨ name.toList = ['-', '-'] ∨
      ∃ c, name.toList = [c] ∧ symbol? c = some token := by
  simp only [signs, List.mem_cons, Prod.mk.injEq, List.not_mem_nil, or_false] at hmem
  rcases hmem with ⟨rfl, rfl⟩ | ⟨rfl, rfl⟩ | ⟨rfl, rfl⟩ | ⟨rfl, rfl⟩ | ⟨rfl, rfl⟩ | ⟨rfl, rfl⟩ |
    ⟨rfl, rfl⟩ | ⟨rfl, rfl⟩ | ⟨rfl, rfl⟩ | ⟨rfl, rfl⟩ | ⟨rfl, rfl⟩
  · exact .inl rfl
  · exact .inr (.inl rfl)
  all_goals exact .inr (.inr ⟨_, rfl, rfl⟩)

/-- **A lexeme that begins with neither digit nor letter** is a pair of signs or a symbol. -/
theorem sign_front_cases (h : token.SpelledAs front) (hfront : front <+: c :: r)
    (hdigit : ¬ c.isDigit = true) (halpha : ¬ c.isAlpha = true) :
    (front.length = 2 ∧ (c == '+' && r.head? == some '+') = true) ∨
    (front.length = 2 ∧ (c == '-' && r.head? == some '-') = true) ∨
    (front.length = 1 ∧ symbol? c = some token) := by
  obtain ⟨name, rfl, hmem⟩ := h.of_sign (h.head?_eq hfront) hdigit halpha
  obtain ⟨rest, hrest⟩ := hfront
  rcases sign_cases hmem with hname | hname | ⟨d, hname, hsymbol⟩ <;> rw [hname] at hrest ⊢ <;>
    cases hrest
  · exact .inl ⟨rfl, rfl⟩
  · exact .inr (.inl ⟨rfl, rfl⟩)
  · exact .inr (.inr ⟨rfl, hsymbol⟩)

/-- A symbol is the sign that it is. -/
theorem spelledAs_of_symbol? (h : symbol? c = some token) : token.SpelledAs [c] := by
  have hmem : (String.ofList [c], token) ∈ signs := by
    revert h
    fun_cases symbol? c <;> rintro ⟨⟩ <;> simp [signs]
  have hspelled := Token.SpelledAs.sign hmem
  rwa [String.toList_ofList] at hspelled

/-- A number takes its digits and their fraction. -/
theorem takes_number (hc : c.isDigit = true) (h : tokenAt c r = .ok (token, n)) :
    token.Takes (c :: r.take n) (r.drop n) := by
  refine takes_of_length_le (tokenAt_le h) (spelledAs_number hc h)
    fun other front hother hfront => ?_
  obtain ⟨whole, fraction, rfl, hwhole, hfraction⟩ :=
    hother.of_isDigit (hother.head?_eq hfront) hc
  have hle := length_le_of_digits hwhole hfraction hfront
  rw [tokenAt_of_isDigit hc] at h
  cases h
  rw [List.takeWhile_cons_of_pos hc, List.dropWhile_cons_of_pos hc, List.length_cons] at hle
  omega

/-- A word takes its letters and digits. -/
theorem takes_word (hc : c.isAlpha = true) (h : tokenAt c r = .ok (token, n)) :
    token.Takes (c :: r.take n) (r.drop n) := by
  obtain ⟨hlength, hspelled⟩ := spelledAs_word hc h
  refine takes_of_length_le (tokenAt_le h) hspelled fun other front hother hfront => ?_
  have hle := length_le_takeWhile (hother.of_isAlpha (hother.head?_eq hfront) hc) hfront
  have hc' : c.isAlphanum = true := by simp [Char.isAlphanum, hc]
  rw [List.takeWhile_cons_of_pos hc', List.length_cons, ← hlength] at hle
  exact hle

/-- A pair of signs is taken together. -/
theorem takes_pair {sign : Char} (hmem : (String.ofList [sign, sign], token) ∈ signs)
    (hpair : (c == sign && r.head? == some sign) = true)
    (hlongest : ∀ (other : Token) (front : List Char), other.SpelledAs front →
      front <+: c :: r → front.length ≤ 2) : token.Takes (c :: r.take 1) (r.drop 1) := by
  obtain ⟨rfl, hr⟩ : c = sign ∧ r.head? = some sign := by simpa using hpair
  obtain ⟨r, rfl⟩ := List.head?_eq_some_iff.1 hr
  have hspelled := Token.SpelledAs.sign hmem
  rw [String.toList_ofList] at hspelled
  exact takes_of_length_le (Nat.succ_le_succ (Nat.zero_le _)) hspelled hlongest

/-- A sign takes one character, or two if they are a pair. -/
theorem takes_sign (hdigit : ¬ c.isDigit = true) (halpha : ¬ c.isAlpha = true)
    (h : tokenAt c r = .ok (token, n)) : token.Takes (c :: r.take n) (r.drop n) := by
  have htwo : ∀ (other : Token) (front : List Char), other.SpelledAs front →
      front <+: c :: r → front.length ≤ 2 := by
    intro other front hother hfront
    rcases sign_front_cases hother hfront hdigit halpha with ⟨hlength, -⟩ | ⟨hlength, -⟩ |
      ⟨hlength, -⟩ <;> omega
  rw [tokenAt, if_neg hdigit, if_neg halpha] at h
  split at h
  · next hplus =>
    cases h
    exact takes_pair (List.mem_cons_self ..) hplus htwo
  split at h
  · next hminus =>
    cases h
    exact takes_pair (List.mem_cons_of_mem _ (List.mem_cons_self ..)) hminus htwo
  next hplus hminus =>
    split at h
    · next symbol hsymbol =>
      cases h
      refine takes_of_length_le (Nat.zero_le _) (spelledAs_of_symbol? hsymbol)
        fun other front hother hfront => ?_
      rcases sign_front_cases hother hfront hdigit halpha with ⟨-, hpair⟩ | ⟨-, hpair⟩ |
        ⟨hlength, -⟩
      · exact absurd hpair hplus
      · exact absurd hpair hminus
      · exact Nat.le_of_eq hlength
    · cases h

/-- **A token takes the longest lexeme** at the front of a text. -/
theorem takes_of_tokenAt (h : tokenAt c r = .ok (token, n)) :
    token.Takes (c :: r.take n) (r.drop n) := by
  by_cases hdigit : c.isDigit = true
  · exact takes_number hdigit h
  · by_cases halpha : c.isAlpha = true
    · exact takes_word halpha h
    · exact takes_sign hdigit halpha h

/-- A word is refused if it is no lexeme. -/
theorem refused_word (hc : c.isAlpha = true) (h : tokenAt c r = .error complaint) :
    Refused (c :: r) complaint := by
  rw [tokenAt_of_isAlpha hc] at h
  have hnone : ∀ token : Token, ¬ token.SpelledAs (c :: r.takeWhile Char.isAlphanum) := by
    intro token htoken
    rw [(wordToken_eq_ok_iff_spelledAs hc).2 htoken] at h
    cases h
  have hcomplaint : complaint =
      .unknownWord (String.ofList ((c :: r.takeWhile Char.isAlphanum).map Char.toUpper)) := by
    revert h
    fun_cases wordToken ((c :: r.takeWhile Char.isAlphanum).map Char.toUpper) <;> rintro ⟨⟩
    rfl
  rw [hcomplaint]
  exact .word hc hnone

/-- Any other character is refused if it is no sign. -/
theorem refused_character (hdigit : ¬ c.isDigit = true) (halpha : ¬ c.isAlpha = true)
    (h : tokenAt c r = .error complaint) : Refused (c :: r) complaint := by
  rw [tokenAt, if_neg hdigit, if_neg halpha] at h
  split at h
  · cases h
  split at h
  · cases h
  next hplus hminus =>
    split at h
    · cases h
    · next hsymbol =>
      cases h
      refine .character fun token front htoken hfront => ?_
      rcases sign_front_cases htoken hfront hdigit halpha with ⟨-, hpair⟩ | ⟨-, hpair⟩ | ⟨-, hsome⟩
      · exact hplus hpair
      · exact hminus hpair
      · rw [hsymbol] at hsome
        cases hsome

/-- **Where no token is found,** none begins, or only one that goes on as a word that is none. -/
theorem refused_of_tokenAt (h : tokenAt c r = .error complaint) : Refused (c :: r) complaint := by
  by_cases hdigit : c.isDigit = true
  · rw [tokenAt_of_isDigit hdigit] at h
    cases h
  · by_cases halpha : c.isAlpha = true
    · exact refused_word halpha h
    · exact refused_character hdigit halpha h

end Formula
end FormulaGrid
