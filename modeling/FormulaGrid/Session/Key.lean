/-
# Keys

A key press is a key and the modifiers held with it. Of the modifiers only control is ever
looked at: a shifted letter is a letter of its own.
-/

namespace FormulaGrid
namespace Session

/-- A key. -/
inductive Key where
  | enter
  | escape
  | up
  | down
  | left
  | right
  | home
  | lineEnd
  | pageUp
  | pageDown
  | backspace
  | delete
  | tab
  | insert
  | function (n : Nat)
  | char (c : Char)
  /-- Any key that is not among these; it means nothing in any mode. -/
  | other
deriving DecidableEq, Repr

/-- The modifiers held with a key. -/
structure Modifiers where
  control : Bool
  shift : Bool
  alt : Bool
deriving DecidableEq, Repr

/-- A key and the modifiers held with it. -/
structure KeyPress where
  key : Key
  modifiers : Modifiers
deriving DecidableEq, Repr

end Session
end FormulaGrid
