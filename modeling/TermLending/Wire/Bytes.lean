/-!
# Numbers as bytes

Big-endian numbers over lists of bytes, of a given width or of the least width that holds them.
-/

namespace TermLending.Wire

/-- The last `width` bytes of a number, big end first. -/
def bigEndian : Nat → Nat → List UInt8
  | 0, _ => []
  | width + 1, n => bigEndian width (n / 256) ++ [UInt8.ofNat n]

def ofBigEndian (bytes : List UInt8) : Nat := bytes.foldl (fun n b => n * 256 + b.toNat) 0

/-- The least number of bytes that hold a number: none for zero. -/
def byteWidth (n : Nat) : Nat := if n = 0 then 0 else n.log2 / 8 + 1

/-- A number without leading zeros. -/
def minimal (n : Nat) : List UInt8 := bigEndian (byteWidth n) n

theorem length_bigEndian (width n : Nat) : (bigEndian width n).length = width := by
  induction width generalizing n with
  | zero => rfl
  | succ width ih => simp [bigEndian, ih]

end TermLending.Wire
