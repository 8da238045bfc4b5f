import Buildfile.Text.Basic
/-!
# UTF-8

A text is stored as bytes in UTF-8. Decoding is strict: it refuses the first bytes that no
character starts with, and a refusal tells where they are, how many they are and what is wrong.
-/

namespace Buildfile

/-- The content of a file or of a stream. -/
abbrev Bytes := List UInt8

namespace Utf8

/-! ## Encoding -/

/-- The byte of a number below 256. -/
def byte (n : Nat) : UInt8 := UInt8.ofNat n

/-- The bytes of one character: a lead byte, and for each further six bits one more byte. -/
def encodeChar (c : Char) : Bytes :=
  let n := c.toNat
  if n < 0x80 then [byte n]
  else if n < 0x800 then [byte (0xC0 + n / 64), byte (0x80 + n % 64)]
  else if n < 0x10000 then [byte (0xE0 + n / 4096), byte (0x80 + n / 64 % 64), byte (0x80 + n % 64)]
  else [byte (0xF0 + n / 262144), byte (0x80 + n / 4096 % 64), byte (0x80 + n / 64 % 64), byte (0x80 + n % 64)]

/-- The bytes of a text. -/
def encode (t : Text) : Bytes := t.flatMap encodeChar

/-! ## Decoding -/

/-- What is wrong with bytes that are no character. -/
inductive Problem where
  /-- No character starts with this byte. -/
  | invalidStart
  /-- The next byte does not continue the character. -/
  | invalidContinuation
  /-- The bytes end inside the character. -/
  | truncated
  deriving DecidableEq, Repr, Inhabited

/-- The wording of a problem. -/
def Problem.message : Problem → Text
  | invalidStart => lit "invalid start byte"
  | invalidContinuation => lit "invalid continuation byte"
  | truncated => lit "unexpected end of data"

/-- What a lead byte announces: its own bits of the code point, how many bytes follow, and the
least and the greatest value of the first of them. -/
def lead? (b : Nat) : Option (Nat × Nat × Nat × Nat) :=
  if b < 0x80 then some (b, 0, 0x80, 0xBF)
  else if b < 0xC2 then none
  else if b < 0xE0 then some (b - 0xC0, 1, 0x80, 0xBF)
  else if b = 0xE0 then some (0, 2, 0xA0, 0xBF)
  else if b = 0xED then some (0xD, 2, 0x80, 0x9F)
  else if b < 0xF0 then some (b - 0xE0, 2, 0x80, 0xBF)
  else if b = 0xF0 then some (0, 3, 0x90, 0xBF)
  else if b < 0xF4 then some (b - 0xF0, 3, 0x80, 0xBF)
  else if b = 0xF4 then some (4, 3, 0x80, 0x8F)
  else none

/-- The code point whose first bits are `bits` and which has `more` further bytes, the first of
them from `lo` to `hi`; or the problem, and how many further bytes were right. -/
def continued (bits : Nat) : (more lo hi : Nat) → Bytes → Except (Problem × Nat) Nat
  | 0, _, _, _ => .ok bits
  | _ + 1, _, _, [] => .error (.truncated, 0)
  | more + 1, lo, hi, b :: bs =>
    if lo ≤ b.toNat ∧ b.toNat ≤ hi then
      match continued (64 * bits + (b.toNat - 0x80)) more 0x80 0xBF bs with
      | .ok n => .ok n
      | .error (p, k) => .error (p, k + 1)
    else .error (.invalidContinuation, 0)

/-- The character that starts with `b` and the number of its further bytes; or the problem, and
how many bytes after `b` are part of it. -/
def first (b : UInt8) (bs : Bytes) : Except (Problem × Nat) (Char × Nat) :=
  match lead? b.toNat with
  | none => .error (.invalidStart, 0)
  | some (bits, more, lo, hi) =>
    match continued bits more lo hi bs with
    | .ok n => .ok (Char.ofNat n, more)
    | .error e => .error e

/-- Bytes that are no character. -/
structure Fault where
  position : Nat
  /-- The first of the bytes. -/
  byte : UInt8
  /-- How many bytes follow the first one. -/
  more : Nat
  problem : Problem
  deriving DecidableEq, Repr, Inhabited

/-- The wording of a fault. -/
def Fault.message (f : Fault) : Text :=
  let what := if f.more = 0 then
      lit "byte 0x" ++ [Nat.digitChar (f.byte.toNat / 16), Nat.digitChar (f.byte.toNat % 16)] ++
        lit " in position " ++ Text.ofNat f.position
    else lit "bytes in position " ++ Text.ofNat f.position ++ '-' :: Text.ofNat (f.position + f.more)
  lit "'utf-8' codec can't decode " ++ what ++ lit ": " ++ f.problem.message

/-- `decodeAfter skip position bs` leaves out `skip` bytes and decodes the others. -/
def decodeAfter : (skip position : Nat) → Bytes → Except Fault Text
  | _, _, [] => .ok []
  | skip + 1, position, _ :: bs => decodeAfter skip (position + 1) bs
  | 0, position, b :: bs =>
    match first b bs with
    | .error (problem, more) => .error { position, byte := b, more, problem }
    | .ok (c, more) => (c :: ·) <$> decodeAfter more (position + 1) bs

/-- The text that bytes stand for. -/
def decode (bs : Bytes) : Except Fault Text := decodeAfter 0 0 bs

/-- `decodeAnyAfter skip bs` is `decodeAfter` with U+FFFD in place of bytes that are no character. -/
def decodeAnyAfter : (skip : Nat) → Bytes → Text
  | _, [] => []
  | skip + 1, _ :: bs => decodeAnyAfter skip bs
  | 0, b :: bs =>
    match first b bs with
    | .error (_, more) => '\uFFFD' :: decodeAnyAfter more bs
    | .ok (c, more) => c :: decodeAnyAfter more bs

/-- The text that bytes stand for, with U+FFFD for each run of bytes that is no character. -/
def decodeAny (bs : Bytes) : Text := decodeAnyAfter 0 bs

end Utf8

end Buildfile
