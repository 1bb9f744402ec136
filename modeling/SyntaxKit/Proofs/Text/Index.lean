import SyntaxKit.Proofs.Text.Extent
import SyntaxKit.Text.Index
import SyntaxKit.Text.Utf8

/-!
# Offsets between characters

An offset is a boundary of some bytes if it is their number or if a character begins at its byte.
For the bytes of a text the boundaries are the byte lengths of the prefixes of the text
(`Utf8.isBoundary_encode_iff`), and they are the offsets that survive being turned into the index of
a character and back (`Text.offsetOf_indexOf_eq_iff`).
-/

namespace SyntaxKit

/-! ## Bytes of a text -/

namespace Utf8

/-- Whether an offset is at the end of some bytes or at the first byte of a character. -/
def IsBoundary (bytes : List UInt8) (offset : Nat) : Prop :=
  offset = bytes.length ∨ ∃ byte, bytes[offset]? = some byte ∧ byte.IsUTF8FirstByte

@[simp] theorem encode_append (s t : List Char) : encode (s ++ t) = encode s ++ encode t := by
  simp [encode]

@[simp] theorem length_encode (t : List Char) : (encode t).length = Text.byteLength t := by
  induction t with
  | nil => rfl
  | cons c t ih =>
    have hlength := String.length_utf8EncodeChar c
    rw [encode] at ih ⊢
    rw [List.flatMap_cons, List.length_append, ih, hlength, Text.byteLength]

/-- The bytes before a boundary of a text are those of the text before it. -/
theorem take_encode_byteLength (front back : List Char) :
    (encode (front ++ back)).take (Text.byteLength front) = encode front := by
  rw [encode_append, ← length_encode, List.take_left]

/-- The boundaries of the bytes of a text are the lengths of its prefixes. -/
theorem isBoundary_encode_iff (t : List Char) (offset : Nat) :
    IsBoundary (encode t) offset ↔
      ∃ front back, t = front ++ back ∧ Text.byteLength front = offset := by
  induction t generalizing offset with
  | nil =>
    constructor
    · rintro (h | ⟨byte, hbyte, -⟩)
      · exact ⟨[], [], rfl, h.symm⟩
      · simp [encode] at hbyte
    · rintro ⟨front, back, h, rfl⟩
      obtain ⟨rfl, rfl⟩ := List.append_eq_nil_iff.mp h.symm
      exact .inl rfl
  | cons c t ih =>
    have hsize := String.length_utf8EncodeChar c
    have hpos := c.utf8Size_pos
    have hencode : encode (c :: t) = String.utf8EncodeChar c ++ encode t := rfl
    by_cases hin : offset < c.utf8Size
    · -- within the first character only its first byte is a boundary
      have hbyte : (encode (c :: t))[offset]? = some (String.utf8EncodeChar c)[offset] := by
        rw [hencode, List.getElem?_append_left (by omega)]
        exact List.getElem?_eq_getElem (by omega)
      have hfirst : IsBoundary (encode (c :: t)) offset ↔ offset = 0 := by
        rw [IsBoundary, hbyte, length_encode, Text.byteLength]
        constructor
        · rintro (h | ⟨byte, h, hbegins⟩)
          · omega
          · obtain rfl := Option.some.inj h
            exact UInt8.isUTF8FirstByte_getElem_utf8EncodeChar.mp hbegins
        · intro h
          exact .inr ⟨_, rfl, UInt8.isUTF8FirstByte_getElem_utf8EncodeChar.mpr h⟩
      rw [hfirst]
      constructor
      · rintro rfl
        exact ⟨[], c :: t, rfl, rfl⟩
      · rintro ⟨front, back, h, rfl⟩
        cases front with
        | nil => rfl
        | cons c' front =>
          obtain ⟨rfl, -⟩ := List.cons.inj h
          rw [Text.byteLength] at hin
          omega
    · -- behind it, the boundaries are those of the rest
      have hrest : IsBoundary (encode (c :: t)) offset
          ↔ IsBoundary (encode t) (offset - c.utf8Size) := by
        have hlength : offset = Text.byteLength (c :: t)
            ↔ offset - c.utf8Size = Text.byteLength t := by
          rw [Text.byteLength]
          omega
        rw [IsBoundary, IsBoundary, length_encode, length_encode, hlength, hencode,
          List.getElem?_append_right (by omega), hsize]
      rw [hrest, ih]
      constructor
      · rintro ⟨front, back, rfl, hfront⟩
        refine ⟨c :: front, back, rfl, ?_⟩
        rw [Text.byteLength, hfront]
        omega
      · rintro ⟨front, back, h, rfl⟩
        cases front with
        | nil => exact absurd hpos hin
        | cons c' front =>
          obtain ⟨rfl, rfl⟩ := List.cons.inj h
          exact ⟨front, back, rfl, (Nat.add_sub_cancel_left ..).symm⟩

end Utf8

/-! ## Indices of characters -/

namespace Text

/-- The index of the character behind a prefix is the number of characters of the prefix. -/
theorem indexOf_byteLength (front back : List Char) :
    indexOf (front ++ back) (byteLength front) = front.length := by
  induction front with
  | nil =>
    cases back with
    | nil => rfl
    | cons c back =>
      have hpos := c.utf8Size_pos
      simp [indexOf, hpos]
  | cons c front ih =>
    have hbehind : ¬ c.utf8Size + byteLength front < c.utf8Size := by omega
    rw [List.cons_append, byteLength, indexOf, if_neg hbehind, Nat.add_sub_cancel_left, ih,
      List.length_cons]

/-- Exactly the offsets between characters survive the way through the index of a character. -/
theorem offsetOf_indexOf_eq_iff (t : List Char) (offset : Nat) :
    offsetOf t (indexOf t offset) = offset ↔
      ∃ front back, t = front ++ back ∧ byteLength front = offset := by
  constructor
  · intro h
    exact ⟨t.take (indexOf t offset), t.drop (indexOf t offset), (List.take_append_drop _ t).symm, h⟩
  · rintro ⟨front, back, rfl, rfl⟩
    rw [indexOf_byteLength, offsetOf, List.take_left]

end Text

end SyntaxKit
