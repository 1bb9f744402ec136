import SyntaxKit.Proofs.Text.Extent
import SyntaxKit.Text.Utf8

/-!
# Reading the bytes of a text

The bytes of a character are read as that character, whatever stands behind them
(`Utf8.pieces_char`), so a text is read back from its bytes (`Utf8.decode?_encode`), and its first
character can be read from any part of them that reaches to the character's end.
-/

namespace SyntaxKit

namespace Utf8

/-! ## Bytes with a few bits each -/

theorem toNat_byte {n : Nat} (h : n < 256) : (UInt8.ofNat n).toNat = n :=
  UInt8.toNat_ofNat_of_lt' h

/-- A byte that carries six bits continues a character. -/
theorem isContinuation_ofNat {n : Nat} (h : n < 64) :
    isContinuation (UInt8.ofNat (n + 0x80)) = true := by
  have hbyte := toNat_byte (n := n + 0x80) (by omega)
  simp only [isContinuation, Bool.and_eq_true, decide_eq_true_eq, UInt8.le_iff_toNat_le,
    UInt8.lt_iff_toNat_lt, hbyte]
  simp
  omega

/-- A byte gives back the six bits that it carries. -/
theorem payload_ofNat {n : Nat} (h : n < 64) : payload (UInt8.ofNat (n + 0x80)) = n := by
  rw [payload, toNat_byte (by omega)]
  omega

/-! ## One character -/

theorem pieces_one {n : Nat} (h : n < 0x80) (rest : List UInt8) :
    pieces (UInt8.ofNat n :: rest) = some (Char.ofNat n) :: pieces rest := by
  have ha := toNat_byte (n := n) (by omega)
  have hfirst : UInt8.ofNat n < 0x80 := by
    rw [UInt8.lt_iff_toNat_lt, ha]
    exact h
  rw [pieces.eq_def]
  simp only
  rw [if_pos hfirst, ha]

theorem pieces_two {n : Nat} (hlow : 0x80 ≤ n) (h : n < 0x800) (rest : List UInt8) :
    pieces (UInt8.ofNat (n / 64 % 32 + 0xC0) :: UInt8.ofNat (n % 64 + 0x80) :: rest)
      = some (Char.ofNat n) :: pieces rest := by
  have ha := toNat_byte (n := n / 64 % 32 + 0xC0) (by omega)
  have hb := isContinuation_ofNat (n := n % 64) (by omega)
  have hbits : (n / 64 % 32 + 0xC0) % 32 * 64 + n % 64 = n := by omega
  rw [pieces.eq_def]
  simp only [UInt8.lt_iff_toNat_lt, UInt8.le_iff_toNat_le, ha, Bool.and_eq_true, decide_eq_true_eq]
  rw [if_neg (by simp), if_pos (by simp; omega), if_pos hb, payload_ofNat (by omega), hbits]

theorem pieces_three {n : Nat} (hlow : 0x800 ≤ n) (h : n < 0x10000)
    (hvalid : n < 0xD800 ∨ 0xDFFF < n) (rest : List UInt8) :
    pieces (UInt8.ofNat (n / 4096 % 16 + 0xE0) :: UInt8.ofNat (n / 64 % 64 + 0x80)
        :: UInt8.ofNat (n % 64 + 0x80) :: rest)
      = some (Char.ofNat n) :: pieces rest := by
  have ha := toNat_byte (n := n / 4096 % 16 + 0xE0) (by omega)
  have hb := toNat_byte (n := n / 64 % 64 + 0x80) (by omega)
  have hbnext := isContinuation_ofNat (n := n / 64 % 64) (by omega)
  have hc := isContinuation_ofNat (n := n % 64) (by omega)
  have hbits : ((n / 4096 % 16 + 0xE0) % 16 * 64 + n / 64 % 64) * 64 + n % 64 = n := by omega
  -- neither too small a number nor a surrogate is written in three bytes
  have hsecond : isSecondOfThree (UInt8.ofNat (n / 4096 % 16 + 0xE0))
      (UInt8.ofNat (n / 64 % 64 + 0x80)) = true := by
    simp only [isSecondOfThree, hbnext, Bool.true_and, Bool.and_eq_true, Bool.or_eq_true,
      bne_iff_ne, ne_eq, decide_eq_true_eq, UInt8.lt_iff_toNat_lt, UInt8.le_iff_toNat_le,
      ← UInt8.toNat_inj, ha, hb]
    simp
    omega
  rw [pieces.eq_def]
  simp only [UInt8.lt_iff_toNat_lt, UInt8.le_iff_toNat_le, ha, Bool.and_eq_true, decide_eq_true_eq]
  rw [if_neg (by simp), if_neg (by simp), if_pos (by simp; omega), if_pos hsecond, if_pos hc,
    payload_ofNat (by omega), payload_ofNat (by omega), hbits]

theorem pieces_four {n : Nat} (hlow : 0x10000 ≤ n) (h : n < 0x110000) (rest : List UInt8) :
    pieces (UInt8.ofNat (n / 262144 % 8 + 0xF0) :: UInt8.ofNat (n / 4096 % 64 + 0x80)
        :: UInt8.ofNat (n / 64 % 64 + 0x80) :: UInt8.ofNat (n % 64 + 0x80) :: rest)
      = some (Char.ofNat n) :: pieces rest := by
  have ha := toNat_byte (n := n / 262144 % 8 + 0xF0) (by omega)
  have hb := toNat_byte (n := n / 4096 % 64 + 0x80) (by omega)
  have hbnext := isContinuation_ofNat (n := n / 4096 % 64) (by omega)
  have hc := isContinuation_ofNat (n := n / 64 % 64) (by omega)
  have hd := isContinuation_ofNat (n := n % 64) (by omega)
  have hbits : (((n / 262144 % 8 + 0xF0) % 8 * 64 + n / 4096 % 64) * 64 + n / 64 % 64) * 64
      + n % 64 = n := by omega
  -- neither too small nor too large a number is written in four bytes
  have hsecond : isSecondOfFour (UInt8.ofNat (n / 262144 % 8 + 0xF0))
      (UInt8.ofNat (n / 4096 % 64 + 0x80)) = true := by
    simp only [isSecondOfFour, hbnext, Bool.true_and, Bool.and_eq_true, Bool.or_eq_true,
      bne_iff_ne, ne_eq, decide_eq_true_eq, UInt8.lt_iff_toNat_lt, UInt8.le_iff_toNat_le,
      ← UInt8.toNat_inj, ha, hb]
    simp
    omega
  rw [pieces.eq_def]
  simp only [UInt8.lt_iff_toNat_lt, UInt8.le_iff_toNat_le, ha, Bool.and_eq_true, decide_eq_true_eq]
  rw [if_neg (by simp), if_neg (by simp), if_neg (by simp), if_pos (by simp; omega),
    if_pos hsecond, if_pos hc, if_pos hd, payload_ofNat (by omega), payload_ofNat (by omega),
    payload_ofNat (by omega), hbits]

/-- The bytes of a character are read as that character. -/
theorem pieces_char (c : Char) (rest : List UInt8) :
    pieces (String.utf8EncodeChar c ++ rest) = some c :: pieces rest := by
  have hvalid : c.val.toNat < 0xD800 ∨ 0xDFFF < c.val.toNat ∧ c.val.toNat < 0x110000 := c.valid
  have hchar : Char.ofNat c.val.toNat = c := Char.ofNat_toNat c
  rw [String.utf8EncodeChar]
  generalize c.val.toNat = n at hvalid hchar
  rw [← hchar]
  split
  · exact pieces_one (by omega) rest
  split
  · exact pieces_two (by omega) (by omega) rest
  split
  · exact pieces_three (by omega) (by omega) (by omega) rest
  · exact pieces_four (by omega) (by omega) rest

/-- No character begins with a byte that continues one. -/
theorem pieces_continuation {b : UInt8} (h : isContinuation b = true) (rest : List UInt8) :
    pieces (b :: rest) = none :: pieces rest := by
  simp only [isContinuation, Bool.and_eq_true, decide_eq_true_eq, UInt8.le_iff_toNat_le,
    UInt8.lt_iff_toNat_lt] at h
  simp at h
  rw [pieces.eq_def]
  simp only [UInt8.lt_iff_toNat_lt, UInt8.le_iff_toNat_le, Bool.and_eq_true, decide_eq_true_eq]
  rw [if_neg (by simp; omega), if_neg (by simp; omega), if_neg (by simp; omega),
    if_neg (by simp; omega)]

/-- All bytes of a character but the first continue it. -/
theorem isContinuation_of_mem_tail (c : Char) :
    ∀ b ∈ (String.utf8EncodeChar c).tail, isContinuation b = true := by
  have hbyte (n : Nat) : isContinuation (UInt8.ofNat (n % 64 + 0x80)) = true :=
    isContinuation_ofNat (Nat.mod_lt _ (by decide))
  rw [String.utf8EncodeChar]
  split
  · simp
  split
  · simp only [List.tail_cons, List.forall_mem_cons]
    exact ⟨hbyte _, by simp⟩
  split
  · simp only [List.tail_cons, List.forall_mem_cons]
    exact ⟨hbyte _, hbyte _, by simp⟩
  · simp only [List.tail_cons, List.forall_mem_cons]
    exact ⟨hbyte _, hbyte _, hbyte _, by simp⟩

/-- Within a character no character begins. -/
theorem first?_within {c : Char} {i : Nat} (hpos : 0 < i) (hlt : i < c.utf8Size)
    (rest : List UInt8) : first? ((String.utf8EncodeChar c).drop i ++ rest) = some none := by
  have hlength : i < (String.utf8EncodeChar c).length := by
    rwa [String.length_utf8EncodeChar]
  obtain ⟨i, rfl⟩ : ∃ k, i = k + 1 := ⟨i - 1, by omega⟩
  rw [List.drop_eq_getElem_cons hlength, List.cons_append, first?, List.take_succ_cons,
    pieces_continuation]
  · rfl
  · refine isContinuation_of_mem_tail c _ ?_
    rw [← List.drop_one]
    exact List.mem_drop_iff_getElem.mpr ⟨i, by omega, by congr 1; omega⟩

/-! ## Texts -/

theorem pieces_encode (t : List Char) : pieces (encode t) = t.map some := by
  induction t with
  | nil => rw [encode, List.flatMap_nil, pieces, List.map_nil]
  | cons c t ih =>
    rw [encode] at ih ⊢
    rw [List.flatMap_cons, pieces_char, ih, List.map_cons]

/-- **A text is read back from its bytes.** -/
theorem decode?_encode (t : List Char) : decode? (encode t) = some t := by
  rw [decode?, pieces_encode]
  induction t with
  | nil => rfl
  | cons c t ih => rw [List.map_cons, List.mapM_cons, ih]; rfl

/-- The bytes of a text begin with its first character. -/
theorem first?_encode (t : List Char) : first? (encode t) = t.head?.map some := by
  cases t with
  | nil => simp [first?, encode, pieces]
  | cons c t =>
    have hencode : encode (c :: t) = String.utf8EncodeChar c ++ encode t := rfl
    have hsize : (String.utf8EncodeChar c).length ≤ 4 := by
      rw [String.length_utf8EncodeChar]
      exact c.utf8Size_le_four
    rw [first?, hencode, List.take_append, List.take_of_length_le hsize, pieces_char]
    rfl

end Utf8

end SyntaxKit
