/-
# UTF-8 is read back

Bytes are read as a text exactly if they are the UTF-8 of that text (`ofUtf8_eq_ok_iff`).

The first byte of a character tells where it begins: it is no continuation byte and all the bytes
after it are. Bytes that are cut into pieces, some of them whole characters, can therefore be put
together to a text only if the pieces between the whole characters are texts themselves.
-/

import FormulaGrid.Text.Utf8

namespace FormulaGrid
namespace Text

variable {bs r r' : Bytes} {c c' : Char} {cs : List Char}

/-- Nothing is written for nothing. -/
theorem utf8_nil : utf8 [] = [] := rfl

/-- A text is written character by character. -/
theorem utf8_cons (c : Char) (cs : List Char) :
    utf8 (c :: cs) = String.utf8EncodeChar c ++ utf8 cs := List.flatMap_cons

/-- Two texts are written one after the other. -/
theorem utf8_append (cs cs' : List Char) : utf8 (cs ++ cs') = utf8 cs ++ utf8 cs' :=
  List.flatMap_append

/-- **The bytes of a character.** Those below `80` are themselves; of the others the first byte is
at least `C0` and the bytes after it are continuations. -/
theorem exists_utf8EncodeChar (c : Char) : ∃ b rest, String.utf8EncodeChar c = b :: rest ∧
    (c.toNat < 0x80 ∧ b.toNat = c.toNat ∧ rest = [] ∨ 0x80 ≤ c.toNat ∧ 0xC0 ≤ b.toNat) ∧
    ∀ x ∈ rest, Continues x := by
  have hval : c.val.toNat = c.toNat := rfl
  have hcont : ∀ n, Continues (UInt8.ofNat (n % 0x40 + 0x80)) := by
    intro n
    simp only [Continues, UInt8.toNat_ofNat']
    omega
  fun_cases String.utf8EncodeChar c with
  | case1 v h =>
    refine ⟨_, _, rfl, .inl ⟨?_, ?_, rfl⟩, by simp⟩
    all_goals simp only [v, hval, UInt8.toNat_ofNat'] at h ⊢
    all_goals omega
  | case2 v h h' =>
    refine ⟨_, _, rfl, .inr ⟨?_, ?_⟩, by simp only [List.forall_mem_cons, hcont]; simp⟩
    all_goals simp only [v, hval, UInt8.toNat_ofNat'] at h h' ⊢
    all_goals omega
  | case3 v h h' h'' =>
    refine ⟨_, _, rfl, .inr ⟨?_, ?_⟩, by simp only [List.forall_mem_cons, hcont]; simp⟩
    all_goals simp only [v, hval, UInt8.toNat_ofNat'] at h h' h'' ⊢
    all_goals omega
  | case4 v h h' h'' =>
    refine ⟨_, _, rfl, .inr ⟨?_, ?_⟩, by simp only [List.forall_mem_cons, hcont]; simp⟩
    all_goals simp only [v, hval, UInt8.toNat_ofNat'] at h h' h'' ⊢
    all_goals omega

/-- A character below `80` is its byte. -/
theorem utf8EncodeChar_of_lt (h : c.toNat < 0x80) :
    String.utf8EncodeChar c = [UInt8.ofNat c.toNat] := by
  obtain ⟨b, rest, hc, ⟨-, hb, rfl⟩ | ⟨hge, -⟩, -⟩ := exists_utf8EncodeChar c
  · rw [hc, ← hb, UInt8.ofNat_toNat]
  · omega

/-- **The character that bytes start with**, if they start with one. -/
theorem firstChar?_eq_some_iff :
    firstChar? bs = some c ↔ ∃ r, bs = String.utf8EncodeChar c ++ r := by
  constructor
  · intro h
    obtain ⟨l, hl⟩ := ByteArray.exists_of_utf8DecodeChar?_eq_some h
    have htake : bs.take 4 = String.utf8EncodeChar c ++ l.data.toList := by
      have := congrArg (fun b : ByteArray => b.data.toList) hl
      simpa using this
    refine ⟨l.data.toList ++ bs.drop 4, ?_⟩
    rw [← List.append_assoc, ← htake, List.take_append_drop]
  · rintro ⟨r, rfl⟩
    have hsize := c.utf8Size_le_four
    rw [firstChar?, List.take_append, List.take_of_length_le (by simpa using hsize),
      List.toByteArray_append, ByteArray.utf8DecodeChar?_utf8EncodeChar_append]

/-- **Bytes are read as the text that they are written for.** -/
theorem ofUtf8_eq_ok_iff : ofUtf8 bs = .ok cs ↔ bs = utf8 cs := by
  constructor
  · intro h
    fun_induction ofUtf8 bs generalizing cs with
    | case1 =>
      cases h
      rfl
    | case2 => cases h
    | case3 b r c hc ih =>
      obtain ⟨rest, hrest⟩ := firstChar?_eq_some_iff.1 hc
      rw [hrest, List.drop_left' (String.length_utf8EncodeChar c)] at h ih
      cases hcs : ofUtf8 rest with
      | error n =>
        rw [hcs] at h
        cases h
      | ok cs =>
        rw [hcs] at h
        cases h
        rw [hrest, ih hcs, utf8_cons]
  · rintro rfl
    induction cs with
    | nil => rw [utf8_nil, ofUtf8]
    | cons c cs ih =>
      obtain ⟨b, rest, hc, -⟩ := exists_utf8EncodeChar c
      have hfirst := firstChar?_eq_some_iff (c := c).2 ⟨utf8 cs, rfl⟩
      have hdrop : (String.utf8EncodeChar c ++ utf8 cs).drop c.utf8Size = utf8 cs :=
        List.drop_left' (String.length_utf8EncodeChar c)
      rw [utf8_cons]
      rw [hc, List.cons_append] at hfirst hdrop ⊢
      rw [ofUtf8]
      simp only [hfirst, hdrop, ih]
      rfl

/-- Where bytes start with a character, they do with no other. -/
theorem eq_of_utf8EncodeChar_append
    (h : String.utf8EncodeChar c ++ r = String.utf8EncodeChar c' ++ r') : c = c' ∧ r = r' := by
  have hc : firstChar? (String.utf8EncodeChar c ++ r) = some c :=
    firstChar?_eq_some_iff.2 ⟨r, rfl⟩
  rw [firstChar?_eq_some_iff.2 ⟨r', h⟩] at hc
  obtain rfl := Option.some.inj hc
  exact ⟨rfl, List.append_cancel_left h⟩

end Text
end FormulaGrid
