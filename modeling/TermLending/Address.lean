/-!
# Addresses

Accounts and contracts are named by 32 bytes. The address of zeros names nobody.
-/

namespace TermLending

structure Address where
  bytes : List UInt8
  length_bytes : bytes.length = 32
  deriving DecidableEq, Repr

namespace Address

def zero : Address := ⟨List.replicate 32 0, List.length_replicate⟩

def ofBytes? (bytes : List UInt8) : Option Address :=
  if h : bytes.length = 32 then some ⟨bytes, h⟩ else none

theorem ofBytes?_bytes (a : Address) : ofBytes? a.bytes = some a := dif_pos a.length_bytes

theorem eq_of_bytes {a b : Address} (same : a.bytes = b.bytes) : a = b := by
  have read := ofBytes?_bytes a
  rw [same, ofBytes?_bytes b] at read
  exact (Option.some.inj read).symm

end Address

end TermLending
