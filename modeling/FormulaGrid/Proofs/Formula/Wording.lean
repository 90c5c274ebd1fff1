/-
# How faults are worded

A message about a formula quotes parts of it: a token, a word, a character that begins no token.
Blanks separate tokens and belong to none, so **spaces are the only blanks in the wording of a
fault** (`spaced_of_parse_error`), whatever blanks the formula has.

A parser complains about the current token or passes on a fault of the lexemes. It never comes by a
token that the text does not have, so from a place where all tokens and the fault that ends them are
worded with spaces alone it goes on to such a place, or to such a fault (`Parser.Words`).
-/

import FormulaGrid.Proofs.Formula.Passage
import FormulaGrid.Proofs.Formula.Spelling
import FormulaGrid.Proofs.Sheet.Naming
import FormulaGrid.Proofs.Text.Trimming

namespace FormulaGrid

open Text (Spaced isBlank)

/-! ## Numbers -/

namespace Number

/-- Digits with a point are spaced. -/
theorem spaced_placeDigits {mark : String} {ds : List Char} (hmark : Spaced mark.toList)
    (hds : Spaced ds) (point : Int) : Spaced (placeDigits mark ds point).toList := by
  have hzeros : ∀ n, Spaced (List.replicate n '0') := fun n =>
    Text.spaced_of_isDigit fun c hc => by rw [List.eq_of_mem_replicate hc]; rfl
  have hbegin : Spaced "0.".toList := by decide +kernel
  have hpoint : Spaced ".".toList := by decide +kernel
  have htake : ∀ k, Spaced (ds.take k) := fun k c hc => hds c (List.mem_of_mem_take hc)
  have hdrop : ∀ k, Spaced (ds.drop k) := fun k c hc => hds c (List.mem_of_mem_drop hc)
  simp only [placeDigits]
  split
  · have hdigits := Text.spaced_toList_ofList (Text.spaced_append.2 ⟨hzeros (-point).toNat, hds⟩)
    exact Text.spaced_toList_append.2 ⟨hbegin, hdigits⟩
  · split
    · have hdigits := Text.spaced_append.2 ⟨hds, hzeros (point.toNat - ds.length)⟩
      exact Text.spaced_toList_append.2 ⟨Text.spaced_toList_ofList hdigits, hmark⟩
    · have hwhole := Text.spaced_toList_ofList (htake point.toNat)
      have hfraction := Text.spaced_toList_ofList (hdrop point.toNat)
      exact Text.spaced_toList_append.2 ⟨Text.spaced_toList_append.2 ⟨hwhole, hpoint⟩, hfraction⟩

/-- **A number is written without blanks** but spaces. -/
theorem spaced_text (x : Float) : Spaced (text x).toList := by
  have hminus : Spaced "-".toList := by decide +kernel
  have hzero : Spaced "0".toList := by decide +kernel
  have hempty : Spaced "".toList := by decide +kernel
  rw [text, Style.write]
  split
  · decide
  · split <;> decide
  · rw [Text.spaced_toList_append]
    constructor
    · split
      · exact hminus
      · exact hempty
    · split
      · exact Text.spaced_toList_append.2 ⟨hzero, hempty⟩
      · exact spaced_placeDigits hempty (Text.spaced_toDigits _) _

end Number

namespace Formula

variable {cs r : List Char} {c : Char} {n : Nat} {token : Token} {complaint : Complaint}

/-! ## Tokens -/

/-- A name of letters and digits is spaced. -/
theorem spaced_of_spelled {name : String} {letters digits : List Char}
    (h : Address.Spelled name letters digits) : Spaced name.toList := by
  rw [h.eq, Text.spaced_append]
  refine ⟨Text.spaced_of_isAlphanum fun c hc => ?_, Text.spaced_of_isDigit h.isDigit⟩
  rw [Char.isAlphanum, h.isAlpha c hc, Bool.true_or]

/-- A token found in a text is spaced. -/
theorem spaced_of_tokenAt (h : tokenAt c r = .ok (token, n)) : Spaced token.text.toList := by
  cases token with
  | number x => exact Number.spaced_text x
  | cell name =>
    obtain ⟨letters, digits, hname⟩ := spelled_of_tokenAt h
    exact spaced_of_spelled hname
  | _ => decide

/-- A word that is neither a keyword nor a name is all there is in the complaint. -/
theorem eq_unknownWord_of_wordToken {word : List Char} (h : wordToken word = .error complaint) :
    complaint = .unknownWord (String.ofList word) := by
  revert h
  fun_cases wordToken word with
  | case8 =>
    intro h
    exact (Except.error.inj h).symm
  | _ =>
    intro h
    cases h

/-- What stands between two others in a message. -/
theorem spaced_between {before quoted after : String} (hbefore : Spaced before.toList)
    (hquoted : Spaced quoted.toList) (hafter : Spaced after.toList) :
    Spaced (before ++ quoted ++ after).toList :=
  Text.spaced_toList_append.2 ⟨Text.spaced_toList_append.2 ⟨hbefore, hquoted⟩, hafter⟩

/-- What is quoted in a message. -/
theorem spaced_quoted {before quoted : String} (hbefore : Spaced before.toList)
    (hquoted : Spaced quoted.toList) : Spaced (before ++ quoted ++ "'").toList :=
  spaced_between hbefore hquoted (by decide +kernel)

/-- A complaint about a text in which no token is found is spaced. -/
theorem spaced_of_tokenAt_error (hc : isBlank c = false) (h : tokenAt c r = .error complaint) :
    Spaced complaint.text.toList := by
  have hcharacter : Spaced "Unexpected character '".toList := by decide +kernel
  have hword : Spaced "Unknown identifier '".toList := by decide +kernel
  -- digits are always read
  have hdigit : ¬ c.isDigit = true := fun hdigit => by
    rw [tokenAt_of_isDigit hdigit] at h
    cases h
  revert h
  fun_cases tokenAt c r with
  | case1 hc => exact absurd hc hdigit
  | case3 | case4 | case5 =>
    intro h
    cases h
  | case2 _ halpha more =>
    intro h
    cases hread : wordToken ((c :: more).map Char.toUpper) with
    | ok token =>
      rw [hread] at h
      cases h
    | error complaint' =>
      rw [hread] at h
      cases h
      obtain rfl := eq_unknownWord_of_wordToken hread
      have hspaced : Spaced ((c :: more).map Char.toUpper) := by
        refine Text.spaced_of_isAlphanum (List.forall_mem_map.2 fun d hd => ?_)
        rw [isAlphanum_toUpper]
        rcases List.mem_cons.1 hd with rfl | hd
        · rw [Char.isAlphanum, halpha, Bool.true_or]
        · exact List.mem_takeWhile_imp hd
      exact spaced_quoted hword (Text.spaced_toList_ofList hspaced)
  | case6 =>
    intro h
    cases h
    have hspaced : Spaced [c] := Text.spaced_of_isBlank (by simpa using hc)
    exact spaced_quoted hcharacter (by rwa [String.toList_singleton])

/-! ## Places in a text -/

/-- **The tokens from a place on,** and the fault that ends them, are spaced. -/
structure Progress.Worded (s : Progress) : Prop where
  tokens : ∀ tok ∈ s.tokens, Spaced tok.text.toList
  stop : ∀ f, s.stop = .error f → Spaced f.complaint.text.toList

/-- What ends the lexemes of a text is spaced. -/
theorem spaced_of_stop {f : Fault} (offset : Nat) (h : (lexemesFrom offset cs).stop = .error f) :
    Spaced f.complaint.text.toList := by
  induction hn : cs.length using Nat.strongRecOn generalizing cs offset with
  | ind n ih =>
    obtain ⟨bs, rest, rfl, hbs, hrest⟩ := exists_blanks_append cs
    rw [lexemesFrom_blanks hbs] at h
    rcases lexemesFrom_cases (offset + bs.length) hrest with
      ⟨-, heq⟩ | ⟨c, r, complaint, rfl, htoken, heq⟩ | ⟨c, r, token, k, rfl, -, -, heq⟩
    · rw [heq] at h
      cases h
    · rw [heq] at h
      cases h
      exact spaced_of_tokenAt_error (hrest c rfl) htoken
    · rw [heq] at h
      have hlength : (r.drop k).length < n := by
        rw [← hn, List.length_append, List.length_cons, List.length_drop]
        omega
      exact ih _ hlength _ h rfl

/-- A text is worded from its start on. -/
theorem worded_start (cs : List Char) : (Progress.start (lexemes cs)).Worded where
  tokens := List.forall_mem_map.2
    (forall_token_of_tokenAt (fun _ _ _ _ htoken => spaced_of_tokenAt htoken) 0 cs)
  stop _ := spaced_of_stop 0

/-! ## Parsers -/

namespace Parser

variable {α β : Type} {p : Parser α} {f : α → Parser β}

/-- **A parser words its faults with spaces alone,** as long as the text is worded so. -/
def Words (p : Parser α) : Prop :=
  ∀ s, s.Worded → (p.run s).2.Worded ∧
    ∀ f, (p.run s).1 = .error f → Spaced f.complaint.text.toList

theorem words_pure (a : α) : Words (pure a) := fun _ hs => ⟨hs, nofun⟩

theorem words_refuse {complaint : Complaint} (h : Spaced complaint.text.toList) :
    Words (refuse complaint : Parser α) := fun _ hs => ⟨hs, by rintro f ⟨⟩; exact h⟩

theorem words_meet : Words meet := by
  intro s hs
  simp only [meet]
  split
  · next fault hmet =>
    refine ⟨hs, ?_⟩
    rintro f ⟨⟩
    refine hs.stop _ ?_
    simp only [Progress.metFault?] at hmet
    split at hmet
    · next hstop => rw [hstop, Option.some.inj hmet]
    · cases hmet
  · exact ⟨hs, by rintro f ⟨⟩⟩

theorem words_advance : Words advance := fun s hs =>
  words_meet { s with items := s.items.tail }
    ⟨fun tok htok => hs.tokens tok (List.map_subset _ (List.tail_sublist _).subset htok), hs.stop⟩

theorem words_countOperator : Words countOperator := by
  have hmany : Spaced Complaint.tooManyOperators.text.toList := by decide +kernel
  intro s hs
  simp only [countOperator]
  split
  · exact ⟨⟨hs.tokens, hs.stop⟩, by rintro f ⟨⟩; exact hmany⟩
  · exact ⟨⟨hs.tokens, hs.stop⟩, by rintro f ⟨⟩⟩

/-- One parser after another. -/
theorem Words.bind (h : p.Words) (hf : ∀ a, (f a).Words) : (p >>= f).Words := by
  intro s hs
  obtain ⟨ht, herr⟩ := h s hs
  simp only [Bind.bind]
  rcases hrun : p.run s with ⟨fault | a, t⟩ <;> rw [hrun] at ht herr
  · exact ⟨ht, by rintro f ⟨⟩; exact herr _ rfl⟩
  · exact hf a t ht

/-- What follows a look at the current token may count on its being one of the text. -/
theorem words_current_bind {f : Option Token → Parser β}
    (hf : ∀ cur, (∀ tok ∈ cur, Spaced tok.text.toList) → (f cur).Words) :
    (current >>= f).Words := by
  intro s hs
  refine hf s.current? (fun tok htok => hs.tokens tok ?_) s hs
  rw [s.current?_eq] at htok
  exact List.mem_of_mem_head? htok

/-- What cannot stand here is quoted. -/
theorem words_unexpected : Words (unexpected : Parser α) := by
  refine words_current_bind fun cur hcur => ?_
  cases cur with
  | none => exact words_refuse (by decide +kernel)
  | some tok => exact words_refuse (spaced_quoted (by decide +kernel) (hcur tok rfl))

/-- A delimiter that is missing is quoted, and what stands in its place. -/
theorem words_expect {wanted : Token} (hwanted : Spaced wanted.text.toList)
    (isWanted : Token → Bool) : Words (expect wanted isWanted) := by
  refine words_current_bind fun found hfound => ?_
  split
  · exact words_advance
  · have hbefore : Spaced ("Expected '" ++ wanted.text ++ "', found '").toList :=
      spaced_between (by decide +kernel) hwanted (by decide +kernel)
    refine words_refuse (spaced_quoted hbefore ?_)
    · cases found with
      | none => decide +kernel
      | some tok => exact hfound tok rfl

/-- The complaint that a formula is nested too deeply quotes nothing. -/
theorem spaced_nestedTooDeeply : Spaced Complaint.nestedTooDeeply.text.toList := by
  decide +kernel

/-- One nesting deeper. -/
theorem Words.nested (h : p.Words) : (nested p).Words := by
  intro s hs
  simp only [Parser.nested]
  split
  · exact ⟨hs, by rintro f ⟨⟩; exact spaced_nestedTooDeeply⟩
  · obtain ⟨ht, herr⟩ := h s.deeper ⟨hs.tokens, hs.stop⟩
    exact ⟨⟨ht.tokens, ht.stop⟩, herr⟩

/-- **Repetitions** of rounds. -/
theorem Words.repeatFrom {continues : Token → Option β} {before : Parser Unit}
    {kept : ∀ s, (before.run s).2.items = s.items} {step : α → β → Parser α}
    (hbefore : before.Words) (h : ∀ a b, (step a b).Words) (a : α) (s : Progress)
    (hs : s.Worded) :
    (repeatFrom continues before kept step a s).2.Worded ∧
      ∀ f, (Parser.repeatFrom continues before kept step a s).1 = .error f →
        Spaced f.complaint.text.toList := by
  have hround : ∀ a b, (round before (step a b)).Words :=
    fun a b => hbefore.bind fun _ => words_advance.bind fun _ => h a b
  fun_induction Parser.repeatFrom continues before kept step a s with
  | case1 a s hc => exact ⟨hs, by rintro f ⟨⟩⟩
  | case2 a s b hc fault t hr =>
    obtain ⟨ht, herr⟩ := hround a b s hs
    rw [hr] at ht herr
    exact ⟨ht, fun f hf => herr f (congrArg _ (Except.error.inj hf))⟩
  | case3 a s b hc a' t hr ih =>
    obtain ⟨ht, -⟩ := hround a b s hs
    rw [hr] at ht
    exact ih ht

/-- Chains of operands. -/
theorem Words.chain {p : Parser Expr} (operator? : Token → Option BinaryOp) (h : p.Words) :
    (chain operator? p).Words :=
  h.bind fun first => Words.repeatFrom words_countOperator
    (fun _ _ => h.bind fun _ => words_pure _) first

end Parser

namespace Level

open Formula.Parser

/-- **The parsers of a level word their faults** with spaces alone. -/
structure Words (level : Level) : Prop where
  sign : level.sign.Words
  step : level.step.Words
  power : level.power.Words
  expression : level.expression.Words
  arguments : level.arguments.Words

section
variable {inner : Level}

/-- An operator and its operand. -/
theorem words_prefixed (op : UnaryOp) {p : Parser Expr} (h : p.Words) : (prefixed op p).Words :=
  words_countOperator.bind fun _ => words_advance.bind fun _ =>
    (Parser.Words.nested h).bind fun _ => words_pure _

/-- Calls. -/
theorem words_call (h : inner.Words) (f : Function) : (inner.call f).Words :=
  words_countOperator.bind fun _ => words_advance.bind fun _ =>
    (words_expect (by decide +kernel) _).bind fun _ =>
      (Parser.Words.nested h.arguments).bind fun _ =>
        (words_expect (by decide +kernel) _).bind fun _ => words_pure _

/-- Groups. -/
theorem words_group (h : inner.Words) : inner.group.Words :=
  words_advance.bind fun _ => (Parser.Words.nested h.expression).bind fun _ =>
    (words_expect (by decide +kernel) _).bind fun _ => words_pure _

/-- Primaries. -/
theorem words_primary (h : inner.Words) : inner.primary.Words :=
  words_current_bind fun cur _ => by
    split
    · exact words_advance.bind fun _ => words_pure _
    · exact words_advance.bind fun _ => words_pure _
    · exact words_call h .mmin
    · exact words_call h .mmax
    · exact words_group h
    · exact words_unexpected

/-- Signs. -/
theorem words_signed (h : inner.Words) : inner.signed.Words :=
  words_current_bind fun cur _ => by
    split
    · exact words_prefixed _ h.sign
    · exact words_primary h

/-- Steps. -/
theorem words_stepped (h : inner.Words) : inner.stepped.Words :=
  words_current_bind fun cur _ => by
    split
    · exact words_prefixed _ h.step
    · exact (words_signed h).bind fun e =>
        Parser.Words.repeatFrom words_countOperator (fun _ _ => words_pure _) e

/-- Powers. -/
theorem words_powered (h : inner.Words) : inner.powered.Words :=
  (words_stepped h).bind fun base => words_current_bind fun cur _ => by
    split
    · exact words_countOperator.bind fun _ => words_advance.bind fun _ =>
        (Parser.Words.nested h.power).bind fun _ => words_pure _
    · exact words_pure _

/-- Expressions. -/
theorem words_sum (h : inner.Words) : inner.sum.Words :=
  (((words_powered h).chain _).chain _).chain _

/-- Arguments. -/
theorem words_argumentList (h : inner.Words) : inner.argumentList.Words :=
  words_current_bind fun cur _ => by
    split
    · exact words_pure _
    · refine (words_sum h).bind fun first => Parser.Words.bind ?_ fun _ => words_pure _
      exact Parser.Words.repeatFrom (words_pure ())
        (fun _ _ => (words_sum h).bind fun _ => words_pure _) [first]

/-- **Levels word their faults** if the levels below them do. -/
theorem words_above (h : inner.Words) : inner.above.Words where
  sign := words_signed h
  step := words_stepped h
  power := words_powered h
  expression := words_sum h
  arguments := words_argumentList h

end

/-- All levels do. -/
theorem words_tower (n : Nat) : (tower ground n).Words := by
  induction n with
  | zero =>
    have hrefused : ∀ α, (refuse .nestedTooDeeply : Parser α).Words :=
      fun _ => words_refuse spaced_nestedTooDeeply
    exact ⟨hrefused _, hrefused _, hrefused _, hrefused _, hrefused _⟩
  | succ n ih => exact words_above ih

end Level

/-- **A fault is worded with spaces alone,** whatever blanks there are in the formula. -/
theorem spaced_of_parse_error {f : Fault} (h : parse cs = .error f) : Spaced f.text.toList := by
  have hwhole : (Parser.whole Level.top).Words :=
    Parser.words_meet.bind fun _ => (Level.words_tower _).expression.bind fun e =>
      Parser.words_current_bind fun cur _ => by
        cases cur
        · exact Parser.words_pure e
        · exact Parser.words_unexpected
  have hcomplaint := (hwhole _ (worded_start cs)).2 f h
  have hposition : Spaced (Nat.repr f.position).toList := by
    rw [Nat.repr, String.toList_ofList]
    exact Text.spaced_toDigits _
  exact spaced_between (spaced_between (by decide +kernel) hcomplaint (by decide +kernel))
    hposition (by decide +kernel)

end Formula
end FormulaGrid
