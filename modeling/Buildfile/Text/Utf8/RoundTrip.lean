import Buildfile.Text.Utf8
/-!
# Reading back what was encoded

`decode_encode` says that decoding the bytes of a text gives the text. For one character the lead
byte announces the number of further bytes and the range of the first of them, each of which adds six
bits to the code point; that no character is a surrogate keeps the bytes after the lead byte `0xED`
in range.
-/

namespace Buildfile.Utf8

/-! ## Bytes -/

theorem toNat_byte {n : Nat} (h : n < 256) : (byte n).toNat = n := UInt8.toNat_ofNat_of_lt h

theorem continued_zero (bits lo hi : Nat) (bs : Bytes) : continued bits 0 lo hi bs = .ok bits := by
  cases bs <;> rfl

/-- A further byte adds its six bits. -/
theorem continued_byte {bits more lo hi d n : Nat} {bs : Bytes} (hd : d < 64) (hlo : lo ≤ 0x80 + d)
    (hhi : 0x80 + d ≤ hi) (h : continued (64 * bits + d) more 0x80 0xBF bs = .ok n) :
    continued bits (more + 1) lo hi (byte (0x80 + d) :: bs) = .ok n := by
  have hb : (byte (0x80 + d)).toNat = 0x80 + d := toNat_byte (by omega)
  simp only [continued, hb]
  rw [if_pos ⟨hlo, hhi⟩, Nat.add_sub_cancel_left, h]

/-- The last byte completes the code point. -/
theorem continued_last {bits lo hi d n : Nat} (bs : Bytes) (hd : d < 64) (hlo : lo ≤ 0x80 + d)
    (hhi : 0x80 + d ≤ hi) (h : 64 * bits + d = n) :
    continued bits 1 lo hi (byte (0x80 + d) :: bs) = .ok n :=
  continued_byte hd hlo hhi (by rw [continued_zero, h])

/-! ## Lead bytes -/

/-- The lead byte of a character of two bytes. -/
theorem lead?_two {n : Nat} (h : 0x80 ≤ n) (h' : n < 0x800) :
    lead? (0xC0 + n / 64) = some (n / 64, 1, 0x80, 0xBF) := by
  simp only [lead?]
  rw [if_neg (by omega), if_neg (by omega), if_pos (by omega), Nat.add_sub_cancel_left]

/-- The lead byte of a character of three bytes allows the byte after it. -/
theorem lead?_three {n : Nat} (h : 0x800 ≤ n) (h' : n < 0x10000) (hs : n < 0xD800 ∨ 0xDFFF < n) :
    ∃ lo hi, lead? (0xE0 + n / 4096) = some (n / 4096, 2, lo, hi) ∧
      lo ≤ 0x80 + n / 64 % 64 ∧ 0x80 + n / 64 % 64 ≤ hi := by
  simp only [lead?]
  rw [if_neg (by omega), if_neg (by omega), if_neg (by omega)]
  split
  · next he => exact ⟨0xA0, 0xBF, by rw [show n / 4096 = 0 by omega], by omega, by omega⟩
  · split
    · next he => exact ⟨0x80, 0x9F, by rw [show n / 4096 = 0xD by omega], by omega, by omega⟩
    · rw [if_pos (by omega), Nat.add_sub_cancel_left]
      exact ⟨0x80, 0xBF, rfl, by omega, by omega⟩

/-- The lead byte of a character of four bytes allows the byte after it. -/
theorem lead?_four {n : Nat} (h : 0x10000 ≤ n) (h' : n < 0x110000) :
    ∃ lo hi, lead? (0xF0 + n / 262144) = some (n / 262144, 3, lo, hi) ∧
      lo ≤ 0x80 + n / 4096 % 64 ∧ 0x80 + n / 4096 % 64 ≤ hi := by
  simp only [lead?]
  rw [if_neg (by omega), if_neg (by omega), if_neg (by omega), if_neg (by omega), if_neg (by omega),
    if_neg (by omega)]
  split
  · next he => exact ⟨0x90, 0xBF, by rw [show n / 262144 = 0 by omega], by omega, by omega⟩
  · split
    · rw [Nat.add_sub_cancel_left]
      exact ⟨0x80, 0xBF, rfl, by omega, by omega⟩
    · rw [if_pos (by omega)]
      exact ⟨0x80, 0x8F, by rw [show n / 262144 = 4 by omega], by omega, by omega⟩

/-! ## Characters -/

/-- The code points of characters. -/
theorem toNat_valid (c : Char) : c.toNat < 0xD800 ∨ (0xDFFF < c.toNat ∧ c.toNat < 0x110000) :=
  c.valid

/-- The first character of an encoded text is read back. -/
theorem first_encodeChar (c : Char) (bs : Bytes) :
    ∃ b xs, encodeChar c = b :: xs ∧ first b (xs ++ bs) = .ok (c, xs.length) := by
  have hv := toNat_valid c
  have hc : Char.ofNat c.toNat = c := Char.ofNat_toNat c
  generalize hn : c.toNat = n at hv hc
  simp only [encodeChar, hn]
  split
  · next h1 =>
    refine ⟨_, _, rfl, ?_⟩
    simp [first, toNat_byte (show n < 256 by omega), lead?, h1, continued_zero, hc]
  · split
    · next h1 h2 =>
      refine ⟨_, _, rfl, ?_⟩
      simp only [first, toNat_byte (show 0xC0 + n / 64 < 256 by omega), lead?_two (by omega) h2,
        List.cons_append, List.nil_append]
      rw [continued_last bs (by omega) (by omega) (by omega) (show 64 * (n / 64) + n % 64 = n by omega)]
      simp [hc]
    · split
      · next h1 h2 h3 =>
        refine ⟨_, _, rfl, ?_⟩
        obtain ⟨lo, hi, hl, hlo, hhi⟩ := lead?_three (by omega) h3 (by omega)
        simp only [first, toNat_byte (show 0xE0 + n / 4096 < 256 by omega), hl, List.cons_append, List.nil_append]
        rw [continued_byte (by omega) hlo hhi (continued_last bs (by omega) (by omega) (by omega)
          (show 64 * (64 * (n / 4096) + n / 64 % 64) + n % 64 = n by omega))]
        simp [hc]
      · next h1 h2 h3 =>
        refine ⟨_, _, rfl, ?_⟩
        obtain ⟨lo, hi, hl, hlo, hhi⟩ := lead?_four (n := n) (by omega) (by omega)
        simp only [first, toNat_byte (show 0xF0 + n / 262144 < 256 by omega), hl, List.cons_append, List.nil_append]
        rw [continued_byte (by omega) hlo hhi (continued_byte (by omega) (by omega) (by omega)
          (continued_last bs (by omega) (by omega) (by omega)
            (show 64 * (64 * (64 * (n / 262144) + n / 4096 % 64) + n / 64 % 64) + n % 64 = n by omega)))]
        simp [hc]

/-! ## Texts -/

theorem decodeAfter_append (xs bs : Bytes) (position : Nat) :
    decodeAfter xs.length position (xs ++ bs) = decodeAfter 0 (position + xs.length) bs := by
  induction xs generalizing position with
  | nil => rfl
  | cons x xs ih =>
    simp only [List.length_cons, List.cons_append, decodeAfter]
    rw [ih, Nat.add_right_comm, Nat.add_assoc]

theorem decodeAfter_encode (t : Text) (position : Nat) : decodeAfter 0 position (encode t) = .ok t := by
  induction t generalizing position with
  | nil => rfl
  | cons c t ih =>
    obtain ⟨b, xs, hb, hf⟩ := first_encodeChar c (encode t)
    rw [show encode (c :: t) = encodeChar c ++ encode t from List.flatMap_cons, hb]
    simp only [List.cons_append, decodeAfter, hf]
    rw [decodeAfter_append, ih]
    rfl

/-- A text is read back from its bytes. -/
theorem decode_encode (t : Text) : decode (encode t) = .ok t := decodeAfter_encode t 0

end Buildfile.Utf8
