/-
# Why a document is refused

A document is read byte by byte, one byte ahead, and refused at the first thing that is
wrong. The place is that of the last byte looked at: the line, counted from one by line
feeds, and the number of bytes looked at since the last line feed.

While it is read, a place is kept as the number of bytes not looked at yet.
-/

import FormulaGrid.Number.Layout
import FormulaGrid.Text.Quoted
import FormulaGrid.Text.Utf8

namespace FormulaGrid
namespace Document

open Text (Bytes)

/-- What a value in a document is, as messages show it. -/
inductive Kind where
  | null
  | boolean (b : Bool)
  | integer (n : Int)
  | fraction (x : Float)
  | string (s : List Char)
  | list
  | map

/-- The wording of a kind. -/
def Kind.text : Kind → String
  | null => "null"
  | boolean b => "boolean `" ++ (if b then "true" else "false") ++ "`"
  | integer n => "integer `" ++ toString n ++ "`"
  | fraction x => "floating point `" ++ Number.marked.write x ++ "`"
  | string s => "string " ++ Text.quoted s
  | list => "sequence"
  | map => "map"

/-- What a document holds at its three levels. -/
inductive Wanted where
  | grid
  | row
  | cell
deriving DecidableEq, Repr

/-- The wording of what is wanted. -/
def Wanted.text : Wanted → String
  | grid => "a non-empty array of equal-length arrays of strings"
  | row => "a sequence"
  | cell => "a string"

/-- What can be wrong with a document. -/
inductive Reason where
  | endInValue
  | endInList
  | endInString
  | expectedValue
  | expectedWord
  | invalidNumber
  | numberOutOfRange
  | controlCharacter
  | invalidEscape
  | loneSurrogate
  | missingSurrogate
  | invalidCodePoint
  | expectedCommaOrEnd
  | trailingComma
  | trailingCharacters
  | wrongKind (found : Kind) (wanted : Wanted)
  | notRectangle

/-- The wording of a reason. -/
def Reason.text : Reason → String
  | endInValue => "EOF while parsing a value"
  | endInList => "EOF while parsing a list"
  | endInString => "EOF while parsing a string"
  | expectedValue => "expected value"
  | expectedWord => "expected ident"
  | invalidNumber => "invalid number"
  | numberOutOfRange => "number out of range"
  | controlCharacter => "control character (\\u0000-\\u001F) found while parsing a string"
  | invalidEscape => "invalid escape"
  | loneSurrogate => "lone leading surrogate in hex escape"
  | missingSurrogate => "unexpected end of hex escape"
  | invalidCodePoint => "invalid unicode code point"
  | expectedCommaOrEnd => "expected `,` or `]`"
  | trailingComma => "trailing comma"
  | trailingCharacters => "trailing characters"
  | wrongKind found wanted => "invalid type: " ++ found.text ++ ", expected " ++ wanted.text
  | notRectangle => "grid must be a non-empty rectangle"

/-- What is wrong, and the number of bytes that had not been looked at when it was found. -/
structure Stop where
  reason : Reason
  unread : Nat

/-- What is wrong with a document, and where. -/
structure Refusal where
  reason : Reason
  line : Nat
  column : Nat

/-- The wording of a refusal. -/
def Refusal.text (r : Refusal) : String :=
  r.reason.text ++ " at line " ++ Nat.repr r.line ++ " column " ++ Nat.repr r.column

/-- The byte that ends a line. -/
def lineFeed : UInt8 := 10

/-- The refusal of a document whose reading stopped. -/
def Stop.refusal (doc : Bytes) (s : Stop) : Refusal :=
  let seen := doc.take (doc.length - s.unread)
  ⟨s.reason, 1 + seen.count lineFeed, (seen.reverse.takeWhile (· != lineFeed)).length⟩

end Document
end FormulaGrid
