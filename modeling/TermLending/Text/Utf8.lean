/-!
# Bytes as text

Characters are written in one to four bytes. Bytes that begin a character but do not complete it, or that begin none,
read as the replacement character.
-/

namespace TermLending.Utf8

def replacement : Char := Char.ofNat 0xfffd

def isBetween (low high b : UInt8) : Bool := low ≤ b && b ≤ high

/-- Reads the given number of further bytes of a character. The first of them has bounds of its own, by which no
character is written longer than it needs, and no surrogate or number beyond the last character occurs. -/
def follow (value : Nat) (low high : UInt8) : Nat → List UInt8 → Char × List UInt8
  | 0, rest => (Char.ofNat value, rest)
  | _ + 1, [] => (replacement, [])
  | more + 1, b :: rest =>
      if isBetween low high b then follow (value * 64 + (b.toNat - 0x80)) 0x80 0xbf more rest
      else (replacement, b :: rest)

/-- The character that some bytes begin with, and the bytes after it. -/
def next (first : UInt8) (rest : List UInt8) : Char × List UInt8 :=
  let n := first.toNat
  if n < 0x80 then (Char.ofNat n, rest)
  else if n < 0xc2 then (replacement, rest)
  else if n < 0xe0 then follow (n - 0xc0) 0x80 0xbf 1 rest
  else if n = 0xe0 then follow 0 0xa0 0xbf 2 rest
  else if n = 0xed then follow 13 0x80 0x9f 2 rest
  else if n < 0xf0 then follow (n - 0xe0) 0x80 0xbf 2 rest
  else if n = 0xf0 then follow 0 0x90 0xbf 3 rest
  else if n < 0xf4 then follow (n - 0xf0) 0x80 0xbf 3 rest
  else if n = 0xf4 then follow 4 0x80 0x8f 3 rest
  else (replacement, rest)

theorem length_follow_le (value : Nat) (low high : UInt8) (more : Nat) (rest : List UInt8) :
    (follow value low high more rest).2.length ≤ rest.length := by
  induction more generalizing value low high rest with
  | zero => exact Nat.le_refl _
  | succ more ih =>
    cases rest with
    | nil => exact Nat.le_refl _
    | cons b rest =>
      unfold follow
      split
      · exact Nat.le_succ_of_le (ih ..)
      · exact Nat.le_refl _

theorem length_next_le (first : UInt8) (rest : List UInt8) : (next first rest).2.length ≤ rest.length := by
  unfold next
  dsimp only
  repeat' split
  all_goals first | exact Nat.le_refl _ | exact length_follow_le ..

def toChars : List UInt8 → List Char
  | [] => []
  | first :: rest =>
      have := length_next_le first rest
      (next first rest).1 :: toChars (next first rest).2
termination_by bytes => bytes.length

end TermLending.Utf8
