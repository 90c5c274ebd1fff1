/-
# UTF-8

A text is written as the UTF-8 bytes of its characters, one after the other. Bytes are read
back character by character; where they are no UTF-8, the reading stops and tells how many
bytes it has not read.
-/

namespace FormulaGrid
namespace Text

/-- A sequence of bytes. -/
abbrev Bytes := List UInt8

/-- The UTF-8 bytes of a text. -/
def utf8 (cs : List Char) : Bytes := cs.flatMap String.utf8EncodeChar

/-- Whether a byte goes on with a character that another one begins. -/
def Continues (b : UInt8) : Prop := 0x80 ≤ b.toNat ∧ b.toNat < 0xC0

instance : DecidablePred Continues := fun _ => inferInstanceAs (Decidable (_ ∧ _))

/-- The character that bytes start with. It takes at most four of them. -/
def firstChar? (bs : Bytes) : Option Char := (bs.take 4).toByteArray.utf8DecodeChar? 0

/-- **The text that bytes are the UTF-8 of**, or the number of bytes from the first one on
that no character explains. -/
def ofUtf8 (bs : Bytes) : Except Nat (List Char) :=
  match bs with
  | [] => .ok []
  | b :: r =>
    match firstChar? (b :: r) with
    | none => .error (b :: r).length
    | some c => (ofUtf8 ((b :: r).drop c.utf8Size)).map (c :: ·)
termination_by bs.length
decreasing_by
  have := c.utf8Size_pos
  simp only [List.length_drop, List.length_cons]
  omega

end Text
end FormulaGrid
