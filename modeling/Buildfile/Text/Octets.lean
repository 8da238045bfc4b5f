import Buildfile.Text.Utf8
/-!
# Octets

Programs exchange bytes: arguments, names of files, and all that they read and write. Where such bytes are
taken apart like text they are kept as text whose characters are the bytes, each the character of the same
number.

`toBytes_ofBytes` says that no byte is lost, and `toBytes_ofText` that the octets of a text are its bytes in
UTF-8.
-/

namespace Buildfile.Octets

/-- The octets of some bytes. -/
def ofBytes (b : Bytes) : Text := b.map fun x => Char.ofNat x.toNat

/-- The bytes of some octets. -/
def toBytes (t : Text) : Bytes := t.map fun c => UInt8.ofNat c.toNat

/-- The octets that stand for a text in UTF-8. -/
def ofText (t : Text) : Text := ofBytes (Utf8.encode t)

/-- The text that octets stand for in UTF-8; octets that are no character become U+FFFD. -/
def toText (t : Text) : Text := Utf8.decodeAny (toBytes t)

/-- Octets cut into characters: the octets of each, and the character unless there is none. The first argument
bounds their number. -/
def charactersWithin : Nat → Text → List (Text × Option Char)
  | 0, _ | _ + 1, [] => []
  | k + 1, c :: t =>
    match Utf8.first (UInt8.ofNat c.toNat) (toBytes (t.take 3)) with
    | .ok (d, more) => (c :: t.take more, some d) :: charactersWithin k (t.drop more)
    | .error _ => ([c], none) :: charactersWithin k t

/-- Octets cut into characters. An octet that is part of no character stands alone. -/
def characters (t : Text) : List (Text × Option Char) := charactersWithin t.length t

/-- The character that stands for the first octet that is part of no character. -/
def strayBase : Nat := 0x10FF00

/-- The characters that octets stand for; an octet that is part of no character has one of its own. -/
def decoded (t : Text) : Text :=
  (characters t).map fun u => u.2.getD (Char.ofNat (strayBase + (u.1.headD ' ').toNat))

/-- The octets that decoded characters stand for. -/
def encoded (t : Text) : Text :=
  t.flatMap fun c => if strayBase ≤ c.toNat then [Char.ofNat (c.toNat - strayBase)] else ofText [c]

/-- The number of the character of a byte is the byte. -/
theorem toNat_ofNat_toNat (x : UInt8) : (Char.ofNat x.toNat).toNat = x.toNat := by
  have h : x.toNat.isValidChar := .inl (by have := x.toNat_lt; omega)
  rw [Char.ofNat, dif_pos h]
  rfl

/-- No byte is lost in its octet. -/
@[simp] theorem toBytes_ofBytes (b : Bytes) : toBytes (ofBytes b) = b := by
  simp [toBytes, ofBytes, toNat_ofNat_toNat, Function.comp_def]

/-- The octets of a text are its bytes in UTF-8. -/
@[simp] theorem toBytes_ofText (t : Text) : toBytes (ofText t) = Utf8.encode t := toBytes_ofBytes _

end Buildfile.Octets
