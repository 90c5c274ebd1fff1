/-
# Strings in documents

A string stands between double quotes. Written, a quote, a backslash and the control
characters below `20` are escaped, and nothing else; read, these escapes are known:

| escape | character |
| --- | --- |
| `\"`, `\\`, `\/` | the second character |
| `\b`, `\f`, `\n`, `\r`, `\t` | backspace, form feed, line feed, carriage return, tab |
| `\u` and four hexadecimal digits | a code point, or half of a surrogate pair |

Whether the bytes of a string are UTF-8 is found out at its closing quote.
-/

import FormulaGrid.Document.Refusal

namespace FormulaGrid
namespace Document

open Text (Bytes)

/-- The lower-case hexadecimal digit of a number below 16. -/
def hexDigit (n : Nat) : Char := Nat.digitChar n

/-- A character in a written string. -/
def escapedChar (c : Char) : List Char :=
  if c = '"' then ['\\', '"']
  else if c = '\\' then ['\\', '\\']
  else if c = '\x08' then ['\\', 'b']
  else if c = '\x0c' then ['\\', 'f']
  else if c = '\n' then ['\\', 'n']
  else if c = '\r' then ['\\', 'r']
  else if c = '\t' then ['\\', 't']
  else if c.toNat < 0x20 then
    ['\\', 'u', '0', '0', hexDigit (c.toNat / 16), hexDigit (c.toNat % 16)]
  else [c]

/-- **A string as it is written.** -/
def literal (s : String) : List Char := '"' :: (s.toList.flatMap escapedChar ++ ['"'])

/-- The value of a hexadecimal digit, in either case. -/
def hexValue? (b : UInt8) : Option Nat :=
  let n := b.toNat
  if 48 ≤ n ∧ n ≤ 57 then some (n - 48)
  else if 97 ≤ n ∧ n ≤ 102 then some (n - 87)
  else if 65 ≤ n ∧ n ≤ 70 then some (n - 55)
  else none

/-- The number of four hexadecimal digits. -/
def hexNumber? (a b c d : UInt8) : Option Nat := do
  some ((((← hexValue? a) * 16 + (← hexValue? b)) * 16 + (← hexValue? c)) * 16 + (← hexValue? d))

/-- Four hexadecimal digits and what follows them. -/
def hexFour : Bytes → Except Stop (Nat × Bytes)
  | a :: b :: c :: d :: r =>
    match hexNumber? a b c d with
    | some n => .ok (n, r)
    | none => .error ⟨.invalidEscape, r.length⟩
  | _ => .error ⟨.endInString, 0⟩

/-- Four hexadecimal digits are four bytes. -/
theorem hexFour_shorter {bs r : Bytes} {n : Nat} (h : hexFour bs = .ok (n, r)) :
    r.length < bs.length := by
  unfold hexFour at h
  split at h
  · split at h
    · cases h
      simp only [List.length_cons]
      omega
    · cases h
  · cases h

/-- Whether a code is the first half of a surrogate pair. -/
def isLeading (n : Nat) : Bool := 0xD800 ≤ n && n ≤ 0xDBFF

/-- Whether a code is the second half of a surrogate pair. -/
def isTrailing (n : Nat) : Bool := 0xDC00 ≤ n && n ≤ 0xDFFF

/-- The second half of a surrogate pair, with its escape, and what follows it. -/
def trailingHalf : Bytes → Except Stop (Nat × Bytes)
  | [] => .error ⟨.endInString, 0⟩
  | b :: r =>
    if b ≠ 92 then .error ⟨.missingSurrogate, r.length⟩
    else match r with
      | [] => .error ⟨.endInString, 0⟩
      | b :: r =>
        if b ≠ 117 then .error ⟨.missingSurrogate, r.length⟩
        else match hexFour r with
          | .error stop => .error stop
          | .ok (n, r) => if isTrailing n then .ok (n, r) else .error ⟨.loneSurrogate, r.length⟩

/-- The second half of a pair takes some bytes. -/
theorem trailingHalf_shorter {bs r : Bytes} {n : Nat} (h : trailingHalf bs = .ok (n, r)) :
    r.length < bs.length := by
  unfold trailingHalf at h
  split at h
  · cases h
  · split at h
    · cases h
    · split at h
      · cases h
      · split at h
        · cases h
        · split at h
          · cases h
          · next heq =>
            have := hexFour_shorter heq
            split at h
            · cases h
              simp only [List.length_cons]
              omega
            · cases h

/-- The character of an escape by code, after its `u`, and what follows it. -/
def codeEscape (bs : Bytes) : Except Stop (Char × Bytes) :=
  match hexFour bs with
  | .error stop => .error stop
  | .ok (n, r) =>
    if isTrailing n then .error ⟨.loneSurrogate, r.length⟩
    else if isLeading n then
      match trailingHalf r with
      | .error stop => .error stop
      | .ok (m, r) => .ok (Char.ofNat ((n - 0xD800) * 0x400 + (m - 0xDC00) + 0x10000), r)
    else .ok (Char.ofNat n, r)

/-- An escape by code takes some bytes. -/
theorem codeEscape_shorter {bs r : Bytes} {c : Char} (h : codeEscape bs = .ok (c, r)) :
    r.length < bs.length := by
  unfold codeEscape at h
  split at h
  · cases h
  · next heq =>
    have h₁ := hexFour_shorter heq
    split at h
    · cases h
    · split at h
      · split at h
        · cases h
        · next heq' =>
          have h₂ := trailingHalf_shorter heq'
          obtain ⟨-, rfl⟩ := Prod.mk.inj (Except.ok.inj h)
          omega
      · obtain ⟨-, rfl⟩ := Prod.mk.inj (Except.ok.inj h)
        exact h₁

/-- The character that a letter after a backslash stands for. -/
def simpleEscape? (b : UInt8) : Option Char :=
  if b = 34 then some '"'
  else if b = 92 then some '\\'
  else if b = 47 then some '/'
  else if b = 98 then some '\x08'
  else if b = 102 then some '\x0c'
  else if b = 110 then some '\n'
  else if b = 114 then some '\r'
  else if b = 116 then some '\t'
  else none

/-- The character of an escape, after its backslash, and what follows it. -/
def escape (bs : Bytes) : Except Stop (Char × Bytes) :=
  match bs with
  | [] => .error ⟨.endInString, 0⟩
  | b :: r =>
    if b = 117 then codeEscape r
    else match simpleEscape? b with
      | some c => .ok (c, r)
      | none => .error ⟨.invalidEscape, r.length⟩

/-- An escape takes some bytes. -/
theorem escape_shorter {bs r : Bytes} {c : Char} (h : escape bs = .ok (c, r)) :
    r.length < bs.length := by
  unfold escape at h
  split at h
  · cases h
  · split at h
    · have := codeEscape_shorter h
      simp only [List.length_cons]
      omega
    · split at h
      · cases h
        simp only [List.length_cons]
        omega
      · cases h

/-- The bytes of a string up to its closing quote, escapes replaced, put before those read
so far, and what follows the quote. The bytes read so far are in reverse. -/
def stringBytes (soFar : Bytes) (bs : Bytes) : Except Stop (Bytes × Bytes) :=
  match bs with
  | [] => .error ⟨.endInString, 0⟩
  | b :: r =>
    if b = 34 then .ok (soFar.reverse, r)
    else if b = 92 then
      match _h : escape r with
      | .error stop => .error stop
      | .ok (c, r') => stringBytes ((String.utf8EncodeChar c).reverse ++ soFar) r'
    else if b < 32 then .error ⟨.controlCharacter, r.length⟩
    else stringBytes (b :: soFar) r
termination_by bs.length
decreasing_by
  · have := escape_shorter _h
    simp only [List.length_cons]
    omega
  · simp

/-- The closing quote is a byte. -/
theorem stringBytes_shorter {soFar bs s r : Bytes} (h : stringBytes soFar bs = .ok (s, r)) :
    r.length < bs.length := by
  fun_induction stringBytes soFar bs with
  | case1 => cases h
  | case2 =>
    cases h
    simp
  | case3 => cases h
  | case4 _ _ _ _ hr _ ih =>
    have := escape_shorter hr
    have := ih h
    simp only [List.length_cons]
    omega
  | case5 => cases h
  | case6 _ _ _ _ _ _ ih =>
    have := ih h
    simp only [List.length_cons]
    omega

/-- **A string after its opening quote**, and what follows it. -/
def string (bs : Bytes) : Except Stop (List Char × Bytes) :=
  match stringBytes [] bs with
  | .error stop => .error stop
  | .ok (s, r) =>
    match Text.ofUtf8 s with
    | .ok cs => .ok (cs, r)
    | .error n => .error ⟨.invalidCodePoint, r.length + n⟩

/-- A string takes some bytes. -/
theorem string_shorter {bs r : Bytes} {cs : List Char} (h : string bs = .ok (cs, r)) :
    r.length < bs.length := by
  unfold string at h
  split at h
  · cases h
  · next heq =>
    split at h
    · cases h
      exact stringBytes_shorter heq
    · cases h

end Document
end FormulaGrid
