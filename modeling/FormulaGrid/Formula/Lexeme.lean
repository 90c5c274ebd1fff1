/-
# Lexemes

Blanks separate tokens and mean nothing else. At a character that is no blank the longest
token is taken:

* at a digit, all digits, and if a dot follows them the dot and all digits after it;
* at a letter, all letters and digits (ASCII ones); the word must be a keyword or letters
  followed by digits;
* at two plus or two minus signs, both of them;
* else one operator, parenthesis or comma.

A text is read into its lexemes, each a token with the offset of its first character, up
to its end or to the first fault (`lexemes`). Token by token, a reader stands at a position of the
text. It skips blanks, takes the token that begins there and stands behind it; at the end of the
text it stays (`readFrom`).
-/

import FormulaGrid.Formula.Fault
import FormulaGrid.Number.Decimal
import FormulaGrid.Text.Blank

namespace FormulaGrid
namespace Formula

/-- A token and the offset of its first character in the text. -/
structure Lexeme where
  token : Token
  start : Nat
deriving Inhabited

/-- A text read into lexemes: they and what stopped the reading, the end of the text (its
length) or a fault. -/
structure Lexemes where
  items : List Lexeme
  stop : Except Fault Nat

/-- Letters followed by digits, nothing else. -/
def isCellName (word : List Char) : Bool :=
  let digits := word.dropWhile Char.isAlpha
  !(word.takeWhile Char.isAlpha).isEmpty && !digits.isEmpty && digits.all Char.isDigit

/-- The token of a word in upper case: a keyword, or else a cell name. -/
def wordToken (word : List Char) : Except Complaint Token :=
  let s := String.ofList word
  if s = "MOD" then .ok .mod
  else if s = "DIV" then .ok .div
  else if s = "INC" then .ok .increment
  else if s = "DEC" then .ok .decrement
  else if s = "MMIN" then .ok .mmin
  else if s = "MMAX" then .ok .mmax
  else if isCellName word then .ok (.cell s)
  else .error (.unknownWord s)

/-- The token that one character is. -/
def symbol? : Char → Option Token
  | '+' => some .plus
  | '-' => some .minus
  | '*' => some .times
  | '/' => some .divide
  | '^' => some .power
  | '%' => some .percent
  | '(' => some .leftParen
  | ')' => some .rightParen
  | ',' => some .comma
  | _ => none

/-- The token of the characters of a number. -/
def numberToken (cs : List Char) : Except Complaint Token :=
  match Number.ofText? cs with
  | some x => .ok (.number x)
  | none => .error (.invalidNumber (String.ofList cs))

/-- The length of the fraction that follows the digits of a number: a dot and digits. -/
def fractionLength : List Char → Nat
  | '.' :: r => 1 + (r.takeWhile Char.isDigit).length
  | _ => 0

/-- **The token at the front of a text**, which starts with the character `c`, and the
number of characters it takes beyond that one. -/
def tokenAt (c : Char) (r : List Char) : Except Complaint (Token × Nat) :=
  if c.isDigit then do
    let more := r.takeWhile Char.isDigit
    let after := r.dropWhile Char.isDigit
    let length := fractionLength after
    let token ← numberToken (c :: more ++ after.take length)
    .ok (token, more.length + length)
  else if c.isAlpha then do
    let more := r.takeWhile Char.isAlphanum
    let token ← wordToken ((c :: more).map Char.toUpper)
    .ok (token, more.length)
  else if c == '+' && r.head? == some '+' then .ok (.increment, 1)
  else if c == '-' && r.head? == some '-' then .ok (.decrement, 1)
  else match symbol? c with
    | some token => .ok (token, 0)
    | none => .error (.unexpectedCharacter c)

/-- The lexemes of the rest of a text, which begins at the given offset. -/
def lexemesFrom (offset : Nat) (cs : List Char) : Lexemes :=
  let start := offset + (cs.takeWhile Text.isBlank).length
  match _h : cs.dropWhile Text.isBlank with
  | [] => ⟨[], .ok start⟩
  | c :: r =>
    match tokenAt c r with
    | .error complaint => ⟨[], .error ⟨complaint, start⟩⟩
    | .ok (token, more) =>
      let rest := lexemesFrom (start + 1 + more) (r.drop more)
      { rest with items := ⟨token, start⟩ :: rest.items }
termination_by cs.length
decreasing_by
  have := (cs.dropWhile_sublist Text.isBlank).length_le
  simp only [_h, List.length_cons, List.length_drop] at this ⊢
  omega

/-- **The lexemes of a text.** -/
def lexemes (cs : List Char) : Lexemes := lexemesFrom 0 cs

/-! ## Token by token -/

/-- **What a reader finds:** a token, or none at the end of the text, the place where that begins,
and the position from which it reads on. -/
structure Reading where
  token? : Option Token
  start : Nat
  position : Nat

/-- What a reader finds at a place where no blank stands. -/
def readAt (start : Nat) : List Char → Except Fault Reading
  | [] => .ok ⟨none, start, start⟩
  | c :: r =>
    match tokenAt c r with
    | .error complaint => .error ⟨complaint, start⟩
    | .ok (token, more) => .ok ⟨some token, start, start + 1 + more⟩

/-- What a reader finds from a position on. -/
def readFrom (cs : List Char) (position : Nat) : Except Fault Reading :=
  let rest := cs.drop position
  readAt (position + (rest.takeWhile Text.isBlank).length) (rest.dropWhile Text.isBlank)

/-- **What a reader finds in its turn,** after a number of others. -/
def reading (cs : List Char) (position : Nat) : Nat → Except Fault Reading
  | 0 => readFrom cs position
  | k + 1 => do
    let r ← readFrom cs position
    reading cs r.position k

end Formula
end FormulaGrid
