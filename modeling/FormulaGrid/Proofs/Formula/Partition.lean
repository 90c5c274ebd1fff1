/-
# Texts in pieces

Read token by token (`reading`), a text falls into pieces, each a gap of blanks and a lexeme, and
what is left then is blanks up to the end or to where no token begins (`Reads`).

**The pieces are the text, and their lexemes are the longest there are** (`reading_partition`). The
tokens are those of `lexemes`, each at the place where its lexeme begins.
-/

import FormulaGrid.Proofs.Formula.Spelling

namespace FormulaGrid
namespace Formula

/-- A lexeme and the gap before it. -/
structure Piece where
  gap : List Char
  lexeme : List Char
  token : Token

/-- The characters of a piece. -/
def Piece.text (p : Piece) : List Char := p.gap ++ p.lexeme

/-- **A text is read in pieces** up to a last gap, and after it there is the end of the text, or no
token begins. -/
inductive Reads : List Char → List Piece → List Char → List Char → Prop
  | ends {gap : List Char} (hgap : ∀ b ∈ gap, Text.isBlank b = true) : Reads gap [] gap []
  | stops {gap r : List Char} {c : Char} {complaint : Complaint}
      (hgap : ∀ b ∈ gap, Text.isBlank b = true) (hc : Text.isBlank c = false)
      (htoken : tokenAt c r = .error complaint) : Reads (gap ++ c :: r) [] gap (c :: r)
  | piece {gap r last rest : List Char} {c : Char} {token : Token} {n : Nat} {pieces : List Piece}
      (hgap : ∀ b ∈ gap, Text.isBlank b = true) (hc : Text.isBlank c = false)
      (htoken : tokenAt c r = .ok (token, n)) (hrest : Reads (r.drop n) pieces last rest) :
      Reads (gap ++ c :: r) (⟨gap, c :: r.take n, token⟩ :: pieces) last rest

variable {cs gap rest front : List Char} {pieces before after : List Piece} {p : Piece}

/-- Every text is read in pieces. -/
theorem exists_reads (cs : List Char) : ∃ pieces gap rest, Reads cs pieces gap rest := by
  induction hn : cs.length using Nat.strongRecOn generalizing cs with
  | ind n ih =>
    obtain ⟨gap, rest, rfl, hgap, hrest⟩ := exists_blanks_append cs
    cases rest with
    | nil =>
      rw [List.append_nil]
      exact ⟨_, _, _, .ends hgap⟩
    | cons c r =>
      have hc : Text.isBlank c = false := hrest c rfl
      cases htoken : tokenAt c r with
      | error complaint => exact ⟨_, _, _, .stops hgap hc htoken⟩
      | ok found =>
        obtain ⟨token, more⟩ := found
        have hlength : (r.drop more).length < n := by
          rw [← hn, List.length_append, List.length_cons, List.length_drop]
          omega
        obtain ⟨pieces, last, rest, hreads⟩ := ih _ hlength _ rfl
        exact ⟨_, _, _, .piece hgap hc htoken hreads⟩

/-- **The pieces and what is left are the text.** -/
theorem Reads.text_eq (h : Reads cs pieces gap rest) :
    cs = pieces.flatMap Piece.text ++ (gap ++ rest) := by
  induction h with
  | ends | stops => simp
  | @piece gap r last rest c token n pieces _ _ _ _ ih =>
    rw [List.flatMap_cons, List.append_assoc, ← ih]
    simp [Piece.text]

/-! ## One piece after the other -/

/-- A reader skips the blanks before it. -/
theorem readFrom_append (front rest : List Char) (hgap : ∀ b ∈ gap, Text.isBlank b = true)
    (hrest : ∀ c ∈ rest.head?, Text.isBlank c = false) :
    readFrom (front ++ (gap ++ rest)) front.length = readAt (front.length + gap.length) rest := by
  have htake : (gap ++ rest).takeWhile Text.isBlank = gap ∧
      (gap ++ rest).dropWhile Text.isBlank = rest := by
    rw [List.takeWhile_append_of_pos hgap, List.dropWhile_append_of_pos hgap]
    cases rest with
    | nil => simp
    | cons c r => simp [hrest c rfl]
  rw [readFrom, List.drop_left]
  simp only [htake.1, htake.2]

/-- At the end of the text a reader finds the end, however often it reads. -/
theorem reading_end (hgap : ∀ b ∈ gap, Text.isBlank b = true) (front : List Char) (k : Nat) :
    reading (front ++ gap) front.length k =
      .ok ⟨none, (front ++ gap).length, (front ++ gap).length⟩ := by
  induction k generalizing front gap with
  | zero =>
    have hread := readFrom_append front [] hgap (by simp)
    rw [List.append_nil] at hread
    rw [reading, hread, readAt, List.length_append]
  | succ k ih =>
    have hread := readFrom_append front [] hgap (by simp)
    have hend := ih (List.forall_mem_nil _) (front ++ gap)
    rw [List.append_nil] at hread hend
    rw [List.length_append] at hend
    rw [reading, hread, List.length_append]
    exact hend

section
variable {c : Char} {r : List Char} {token : Token} {n : Nat}

/-- A token and the gap before it end where the reader stands afterwards. -/
theorem length_taken (gap : List Char) (htoken : tokenAt c r = .ok (token, n)) :
    (gap ++ c :: r.take n).length = gap.length + 1 + n := by
  have hn := tokenAt_le htoken
  rw [List.length_append, List.length_cons, List.length_take]
  omega

/-- A reader takes a piece. -/
theorem readFrom_piece (front : List Char) (hgap : ∀ b ∈ gap, Text.isBlank b = true)
    (hc : Text.isBlank c = false) (htoken : tokenAt c r = .ok (token, n)) :
    readFrom (front ++ (gap ++ c :: r)) front.length =
      .ok ⟨some token, front.length + gap.length, (front ++ (gap ++ c :: r.take n)).length⟩ := by
  rw [readFrom_append front _ hgap (by simpa using hc), readAt, htoken, List.length_append,
    length_taken gap htoken, ← Nat.add_assoc, ← Nat.add_assoc]

end

/-- **A reader reads the pieces before it first,** and then from where they end. What is left are
the other pieces. -/
theorem Reads.skip (h : Reads cs (before ++ after) gap rest) : ∃ cs',
    cs = before.flatMap Piece.text ++ cs' ∧ Reads cs' after gap rest ∧
    (∀ front k, reading (front ++ cs) front.length (before.length + k) =
      reading (front ++ cs) (front ++ before.flatMap Piece.text).length k) ∧
    ∀ offset, lexemesFrom (offset + (before.flatMap Piece.text).length) cs' =
      ⟨(lexemesFrom offset cs).items.drop before.length, (lexemesFrom offset cs).stop⟩ := by
  induction before generalizing cs with
  | nil => exact ⟨cs, rfl, h, by simp, by simp⟩
  | cons p before ih =>
    cases h with
    | @piece g r _ _ c token n _ hgap hc htoken hrest =>
      obtain ⟨cs', heq, hreads, hreading, hlexemes⟩ := ih hrest
      have htext : (g ++ c :: r.take n) ++ r.drop n = g ++ c :: r := by
        rw [List.append_assoc, List.cons_append, List.take_append_drop]
      refine ⟨cs', ?_, hreads, fun front k => ?_, fun offset => ?_⟩
      · rw [← htext, heq]
        simp [Piece.text]
      · have hnext := hreading (front ++ (g ++ c :: r.take n)) k
        rw [List.append_assoc, htext, List.append_assoc front] at hnext
        rw [List.length_cons, Nat.add_right_comm, reading, readFrom_piece front hgap hc htoken]
        exact hnext
      · have hnext := hlexemes (offset + g.length + 1 + n)
        rw [lexemesFrom_blanks hgap, lexemesFrom_token hc htoken, List.length_cons,
          List.drop_succ_cons, ← hnext, List.flatMap_cons, List.length_append, Piece.text,
          length_taken g htoken]
        congr 1
        omega

/-- **A piece is a lexeme each,** and they begin one after the other. -/
theorem Reads.items (h : Reads cs pieces gap rest) (offset : Nat) :
    (lexemesFrom offset cs).items.length = pieces.length ∧
      (∀ item ∈ (lexemesFrom offset cs).items, offset ≤ item.start) ∧
      (lexemesFrom offset cs).items.Pairwise fun item later => item.start < later.start := by
  induction h generalizing offset with
  | @ends gap hgap =>
    have hnone := lexemesFrom_blanks hgap offset []
    rw [List.append_nil, lexemesFrom_nil] at hnone
    simp [hnone]
  | stops hgap hc htoken => simp [lexemesFrom_blanks hgap, lexemesFrom_fault hc htoken]
  | @piece gap r _ _ c token n _ hgap hc htoken _ ih =>
    obtain ⟨hlength, hle, hpairwise⟩ := ih (offset + gap.length + 1 + n)
    rw [lexemesFrom_blanks hgap, lexemesFrom_token hc htoken]
    refine ⟨congrArg (· + 1) hlength,
      List.forall_mem_cons.2 ⟨Nat.le_add_right .., fun item hitem => ?_⟩,
      List.pairwise_cons.2 ⟨fun item hitem => ?_, hpairwise⟩⟩
    · have := hle item hitem
      omega
    · have := hle item hitem
      dsimp only
      omega

/-- **What is found in a piece's turn.** -/
theorem Reads.piece_found (h : Reads cs (before ++ p :: after) gap rest) :
    (∀ b ∈ p.gap, Text.isBlank b = true) ∧ p.lexeme ≠ [] ∧
    p.token.Takes p.lexeme (after.flatMap Piece.text ++ (gap ++ rest)) ∧
    let start := (before.flatMap Piece.text).length + p.gap.length
    reading cs 0 before.length = .ok ⟨some p.token, start, start + p.lexeme.length⟩ ∧
      (lexemes cs).items[before.length]? = some ⟨p.token, start⟩ := by
  obtain ⟨cs', rfl, hreads, hreading, hlexemes⟩ := h.skip
  cases hreads with
  | @piece g r _ _ c token n _ hgap hc htoken hrest =>
    have htakes := takes_of_tokenAt htoken
    rw [hrest.text_eq] at htakes
    refine ⟨hgap, List.cons_ne_nil _ _, htakes, ?_, ?_⟩
    · have hfound := readFrom_piece (before.flatMap Piece.text) hgap hc htoken
      rw [List.length_append, List.length_append, ← Nat.add_assoc] at hfound
      exact (hreading [] 0).trans hfound
    · have hitems := congrArg (fun l => l.items.head?) (hlexemes 0)
      dsimp only at hitems
      rw [lexemesFrom_blanks hgap, lexemesFrom_token hc htoken, List.head?_drop,
        Nat.zero_add] at hitems
      exact hitems.symm

/-- **What is found after all pieces.** -/
theorem Reads.rest_found (h : Reads cs pieces gap rest) : (∀ b ∈ gap, Text.isBlank b = true) ∧
    ((rest = [] ∧ (lexemes cs).stop = .ok cs.length ∧
        ∀ k, reading cs 0 (pieces.length + k) = .ok ⟨none, cs.length, cs.length⟩) ∨
      ∃ complaint, Refused rest complaint ∧
        let fault : Fault := ⟨complaint, (pieces.flatMap Piece.text ++ gap).length⟩
        (lexemes cs).stop = .error fault ∧ reading cs 0 pieces.length = .error fault) := by
  rw [← List.append_nil pieces] at h
  obtain ⟨cs', rfl, hreads, hreading, hlexemes⟩ := h.skip
  have hstop := congrArg Lexemes.stop (hlexemes 0)
  rw [Nat.zero_add] at hstop
  cases hreads with
  | ends hgap =>
    refine ⟨hgap, .inl ⟨rfl, ?_, fun k => (hreading [] k).trans (reading_end hgap _ k)⟩⟩
    have hnone := lexemesFrom_blanks hgap (pieces.flatMap Piece.text).length []
    rw [List.append_nil, lexemesFrom_nil, ← List.length_append] at hnone
    exact hstop.symm.trans (congrArg Lexemes.stop hnone)
  | @stops _ r c complaint hgap hc htoken =>
    refine ⟨hgap, .inr ⟨complaint, refused_of_tokenAt htoken, ?_, ?_⟩⟩
    · rw [lexemesFrom_blanks hgap, lexemesFrom_fault hc htoken, ← List.length_append] at hstop
      exact hstop.symm
    · have hfound := readFrom_append (pieces.flatMap Piece.text) (c :: r) hgap
        (by simpa using hc)
      rw [readAt, htoken, ← List.length_append] at hfound
      exact (hreading [] 0).trans hfound

/-- **Reading token by token is reading by longest match.** A text is pieces one after the other,
then a gap, then a rest. The reading in a piece's turn finds its token, after a gap of blanks, and
stands behind its lexeme, which is not empty and the longest that there is at its place. The tokens
and places are those of `lexemes`, each place after the one before. If nothing is left, all later
readings find the end at the length of the text; else the next one refuses what stands at the
front of the rest. A number is always read. -/
theorem reading_partition (cs : List Char) : ∃ (pieces : List Piece) (gap rest : List Char),
    cs = pieces.flatMap Piece.text ++ (gap ++ rest) ∧
    (∀ before p after, pieces = before ++ p :: after →
      (∀ b ∈ p.gap, Text.isBlank b = true) ∧ p.lexeme ≠ [] ∧
      p.token.Takes p.lexeme (after.flatMap Piece.text ++ (gap ++ rest)) ∧
      let start := (before.flatMap Piece.text).length + p.gap.length
      reading cs 0 before.length = .ok ⟨some p.token, start, start + p.lexeme.length⟩ ∧
        (lexemes cs).items[before.length]? = some ⟨p.token, start⟩) ∧
    (lexemes cs).items.length = pieces.length ∧
    (lexemes cs).items.Pairwise (fun item later => item.start < later.start) ∧
    (∀ b ∈ gap, Text.isBlank b = true) ∧
    ((rest = [] ∧ (lexemes cs).stop = .ok cs.length ∧
        ∀ k, reading cs 0 (pieces.length + k) = .ok ⟨none, cs.length, cs.length⟩) ∨
      ∃ complaint, Refused rest complaint ∧
        let fault : Fault := ⟨complaint, (pieces.flatMap Piece.text ++ gap).length⟩
        (lexemes cs).stop = .error fault ∧ reading cs 0 pieces.length = .error fault) ∧
    ∀ whole fraction, whole ≠ [] → (∀ c ∈ whole, c.isDigit = true) → Number.IsFraction fraction →
      ∃ x, Number.read? (whole ++ fraction) = some x := by
  obtain ⟨pieces, gap, rest, h⟩ := exists_reads cs
  obtain ⟨hlength, -, hpairwise⟩ := h.items 0
  obtain ⟨hgap, hrest⟩ := h.rest_found
  refine ⟨pieces, gap, rest, h.text_eq, ?_, hlength, hpairwise, hgap, hrest, ?_⟩
  · rintro before p after rfl
    exact h.piece_found
  · intro whole fraction hne hwhole hfraction
    exact ⟨_, Number.read?_of_digits hne hwhole hfraction⟩

end Formula
end FormulaGrid
