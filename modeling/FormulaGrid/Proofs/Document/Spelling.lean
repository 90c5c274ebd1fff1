/-
# What documents spell

The grammar of documents, on characters. A text *spells* a value if it is a way to write it:

    document = ws list ws
    list     = "[" [ ws item { ws "," ws item } ] ws "]"
    string   = '"' { char } '"'
    char     = any but '"', "\" and the control characters
             | "\" letter | "\u" code | "\u" code "\u" code

The items of the outer list are lists and theirs are strings. A code is four hexadecimal digits
in either case. A character beyond the first 65536 is spelled by the two halves of its surrogate
pair; a code of a half alone spells nothing, since no character has it for its own.

The document of a sheet spells the texts of the sheet (`spells_ofSheet`).
-/

import FormulaGrid.Document.Write
import Mathlib.Tactic.SplitIfs

namespace FormulaGrid
namespace Document

open Text (Bytes)

/-- **Blanks**: spaces, tabs, line feeds and carriage returns. -/
def Blanks (ws : List Char) : Prop := ∀ c ∈ ws, c ∈ [' ', '\t', '\n', '\r']

/-- The letters that may follow a backslash, and the characters they stand for there. -/
def letterEscapes : List (Char × Char) :=
  [('"', '"'), ('\\', '\\'), ('/', '/'), ('b', '\x08'), ('f', '\x0c'), ('n', '\n'), ('r', '\r'),
    ('t', '\t')]

/-- **A code** is a number of four hexadecimal digits, in either case. -/
def SpellsCode (n : Nat) (w : List Char) : Prop :=
  n < 0x10000 ∧ w.map Char.toLower =
    [hexDigit (n / 0x1000), hexDigit (n / 0x100 % 0x10), hexDigit (n / 0x10 % 0x10),
      hexDigit (n % 0x10)]

/-- The number by which the surrogates of a character are known. -/
def beyond (c : Char) : Nat := c.toNat - 0x10000

/-- **The spellings of a character** in a string. -/
inductive SpellsChar : Char → List Char → Prop where
  | plain {c : Char} (control : 0x20 ≤ c.toNat) (quote : c ≠ '"') (backslash : c ≠ '\\') :
      SpellsChar c [c]
  | letter {x c : Char} (h : (x, c) ∈ letterEscapes) : SpellsChar c ['\\', x]
  | code {c : Char} {w : List Char} (h : SpellsCode c.toNat w) : SpellsChar c ('\\' :: 'u' :: w)
  | pair {c : Char} {w w' : List Char} (large : 0x10000 ≤ c.toNat)
      (leading : SpellsCode (0xD800 + beyond c / 0x400) w)
      (trailing : SpellsCode (0xDC00 + beyond c % 0x400) w') :
      SpellsChar c ('\\' :: 'u' :: (w ++ '\\' :: 'u' :: w'))

/-- A character beyond the first 65536 is spelled by its pair, in either case. -/
example : SpellsChar '😀' ['\\', 'u', 'D', '8', '3', 'd', '\\', 'u', 'd', 'E', '0', '0'] :=
  .pair (w := ['D', '8', '3', 'd']) (by decide) ⟨by decide, by decide⟩ ⟨by decide, by decide⟩

/-- The spellings of characters one after the other. -/
inductive SpellsChars : List Char → List Char → Prop where
  | nil : SpellsChars [] []
  | cons {c : Char} {cs w w' : List Char} (head : SpellsChar c w) (tail : SpellsChars cs w') :
      SpellsChars (c :: cs) (w ++ w')

/-- **The spellings of a string.** -/
def SpellsString (s : String) (w : List Char) : Prop :=
  ∃ inner, SpellsChars s.toList inner ∧ w = '"' :: (inner ++ ['"'])

/-- **What stands before an item of a list:** blanks before the first one, a comma between blanks
before the others. -/
inductive Separates : Bool → List Char → Prop where
  | first {ws : List Char} (blanks : Blanks ws) : Separates true ws
  | comma {ws ws' : List Char} (before : Blanks ws) (after : Blanks ws') :
      Separates false (ws ++ ',' :: ws')

/-- The spellings of the items of a list, from the first one or from a further one on, and of the
end of the list. -/
inductive SpellsItems {α : Type} (Item : α → List Char → Prop) :
    Bool → List α → List Char → Prop where
  | close {first : Bool} {ws : List Char} (blanks : Blanks ws) :
      SpellsItems Item first [] (ws ++ [']'])
  | item {first : Bool} {a : α} {as : List α} {sep w r : List Char} (before : Separates first sep)
      (head : Item a w) (tail : SpellsItems Item false as r) :
      SpellsItems Item first (a :: as) (sep ++ (w ++ r))

/-- **The spellings of a list**, given those of its items. -/
def SpellsList {α : Type} (Item : α → List Char → Prop) (as : List α) (w : List Char) : Prop :=
  ∃ inner, SpellsItems Item true as inner ∧ w = '[' :: inner

/-- **A document spells rows of texts.** -/
def Spells (doc : Bytes) (rows : List (List String)) : Prop :=
  ∃ ws w ws', Blanks ws ∧ SpellsList (SpellsList SpellsString) rows w ∧ Blanks ws' ∧
    doc = Text.utf8 (ws ++ w ++ ws')

/-! ## The document of a sheet -/

/-- The empty text is blank. -/
theorem blanks_nil : Blanks [] := fun _ hc => absurd hc List.not_mem_nil

/-- A new line is blank. -/
theorem blanks_newLine (depth : Nat) : Blanks (newLine depth) := by
  intro c hc
  rw [newLine, List.mem_cons, List.mem_replicate] at hc
  rcases hc with rfl | ⟨-, rfl⟩ <;> simp

/-- The digits that are written are in lower case. -/
theorem toLower_hexDigit {n : Nat} (h : n < 0x10) : (hexDigit n).toLower = hexDigit n := by
  revert n
  decide

/-- The code of a control character begins with two zeros. -/
theorem spellsCode_of_control {n : Nat} (h : n < 0x20) :
    SpellsCode n ['0', '0', hexDigit (n / 0x10), hexDigit (n % 0x10)] := by
  have h₁ : n / 0x1000 = 0 := by omega
  have h₂ : n / 0x100 % 0x10 = 0 := by omega
  have h₃ : n / 0x10 % 0x10 = n / 0x10 := by omega
  refine ⟨by omega, ?_⟩
  rw [h₁, h₂, h₃]
  simp only [List.map_cons, List.map_nil, toLower_hexDigit (show n / 0x10 < 0x10 by omega),
    toLower_hexDigit (show n % 0x10 < 0x10 by omega)]
  rfl

/-- Every character is spelled by its escape. -/
theorem spellsChar_escapedChar (c : Char) : SpellsChar c (escapedChar c) := by
  rw [escapedChar]
  split_ifs with hquote hbackslash hb hf hn hr ht hcontrol
  · exact .letter (by simp [letterEscapes, hquote])
  · exact .letter (by simp [letterEscapes, hbackslash])
  · exact .letter (by simp [letterEscapes, hb])
  · exact .letter (by simp [letterEscapes, hf])
  · exact .letter (by simp [letterEscapes, hn])
  · exact .letter (by simp [letterEscapes, hr])
  · exact .letter (by simp [letterEscapes, ht])
  · exact .code (spellsCode_of_control hcontrol)
  · exact .plain (Nat.le_of_not_lt hcontrol) hquote hbackslash

/-- A string is spelled by its literal. -/
theorem spellsString_literal (s : String) : SpellsString s (literal s) := by
  refine ⟨s.toList.flatMap escapedChar, ?_, rfl⟩
  induction s.toList with
  | nil => exact .nil
  | cons c cs ih =>
    rw [List.flatMap_cons]
    exact .cons (spellsChar_escapedChar c) ih

variable {α : Type} {Item : α → List Char → Prop} {write : α → List Char}

/-- Items that are written on lines of their own are spelled so, whatever separates the first of
them from what is before it. -/
theorem spellsItems_separated {first : Bool} {sep start ws : List Char}
    (hsep : Separates first sep) (hstart : Blanks start) (hws : Blanks ws)
    (h : ∀ a, Item a (write a)) (a : α) (as : List α) : ∃ r,
      separated start ((a :: as).map write) ++ ws ++ [']'] = start ++ r ∧
      SpellsItems Item first (a :: as) (sep ++ r) := by
  induction as generalizing a first sep with
  | nil =>
    refine ⟨write a ++ (ws ++ [']']), by simp [separated], ?_⟩
    exact .item hsep (h a) (.close hws)
  | cons a' as ih =>
    have hcomma : Separates false ([] ++ ',' :: start) := .comma blanks_nil hstart
    obtain ⟨r, heq, hr⟩ := ih hcomma a'
    refine ⟨write a ++ (([] ++ ',' :: start) ++ r), ?_, .item hsep (h a) hr⟩
    simpa [separated] using heq

/-- **A list is spelled as it is written**, if its items are. -/
theorem spellsList_writtenList (depth : Nat) (h : ∀ a, Item a (write a)) (as : List α) :
    SpellsList Item as (writtenList depth (as.map write)) := by
  refine ⟨_, ?_, rfl⟩
  cases as with
  | nil => exact .close (blanks_newLine depth)
  | cons a as =>
    have hstart := blanks_newLine (depth + 1)
    obtain ⟨r, heq, hr⟩ :=
      spellsItems_separated (.first hstart) hstart (blanks_newLine depth) h a as
    rw [heq]
    exact hr

/-- **The document of a sheet spells its texts.** -/
theorem spells_ofSheet (s : Sheet) : Spells (ofSheet s) s.texts := by
  refine ⟨[], written s, [], blanks_nil, ?_, blanks_nil, by simp [ofSheet]⟩
  exact spellsList_writtenList 0
    (fun row => spellsList_writtenList 1 spellsString_literal row) s.texts

end Document
end FormulaGrid
