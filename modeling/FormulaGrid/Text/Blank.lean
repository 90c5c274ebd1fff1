/-
# White space and trimming

The blank characters are those with the Unicode property `White_Space`:

| code points | characters |
| --- | --- |
| `0009` … `000D` | tab, line feed, line tabulation, form feed, carriage return |
| `0020`, `0085`, `00A0` | space, next line, no-break space |
| `1680`, `2000` … `200A` | Ogham space mark, en quad … hair space |
| `2028`, `2029` | line and paragraph separator |
| `202F`, `205F`, `3000` | narrow no-break, mathematical and ideographic space |

Trimming takes the blanks off the ends of a text and leaves those inside it.
-/

namespace FormulaGrid
namespace Text

/-- The Unicode property `White_Space`. -/
def isBlank (c : Char) : Bool :=
  let n := c.toNat
  (0x9 ≤ n && n ≤ 0xD) || n == 0x20 || n == 0x85 || n == 0xA0 || n == 0x1680 ||
    (0x2000 ≤ n && n ≤ 0x200A) || n == 0x2028 || n == 0x2029 || n == 0x202F || n == 0x205F ||
    n == 0x3000

/-- A text without the blanks it starts with. -/
def trimStart (cs : List Char) : List Char := cs.dropWhile isBlank

/-- A text without the blanks it ends with. -/
def trimEnd (cs : List Char) : List Char := (cs.reverse.dropWhile isBlank).reverse

/-- A text without the blanks at either end. -/
def trim (cs : List Char) : List Char := trimEnd (trimStart cs)

/-- The characters of a string without the blanks at either end. -/
def trimmed (s : String) : String := String.ofList (trim s.toList)

end Text
end FormulaGrid
