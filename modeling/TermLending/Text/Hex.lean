/-!
# Hexadecimal text

Two digits for each byte, the small letters for ten to fifteen. Capital letters are read as well.
-/

namespace TermLending.Hex

def digit (n : Nat) : Char := Char.ofNat (if n < 10 then 0x30 + n else 0x57 + n)

def ofBytes (bytes : List UInt8) : List Char :=
  bytes.flatMap fun b => [digit (b.toNat / 16), digit (b.toNat % 16)]

def value? (c : Char) : Option Nat :=
  if '0' ≤ c ∧ c ≤ '9' then some (c.toNat - 0x30)
  else if 'a' ≤ c ∧ c ≤ 'f' then some (c.toNat - 0x57)
  else if 'A' ≤ c ∧ c ≤ 'F' then some (c.toNat - 0x37)
  else none

def toBytes? : List Char → Option (List UInt8)
  | [] => some []
  | high :: low :: rest => do
      let high ← value? high
      let low ← value? low
      return UInt8.ofNat (16 * high + low) :: (← toBytes? rest)
  | [_] => none

theorem length_ofBytes (bytes : List UInt8) : (ofBytes bytes).length = 2 * bytes.length := by
  induction bytes with
  | nil => rfl
  | cons b bytes ih => simp_all [ofBytes]; omega

end TermLending.Hex
