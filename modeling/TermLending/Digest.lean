import TermLending.Address

/-!
# Digests

Keccak with a 256-bit digest. A message is padded to whole blocks with one bit right after it and one at the end. The
permutation acts on 25 lanes of 64 bits, the lane in column `x` and row `y` at place `x + 5 * y`.
-/

namespace TermLending

structure Digest where
  bytes : List UInt8
  deriving DecidableEq, Repr

namespace Keccak

abbrev Lanes := List UInt64

def lane (s : Lanes) (i : Nat) : UInt64 := s.getD i 0

/-- The lanes given by a rule on places. -/
def build (f : Nat → UInt64) : Lanes := (List.range 25).map f

def rotate (w : UInt64) (n : Nat) : UInt64 :=
  (w <<< UInt64.ofNat n) ||| (w >>> UInt64.ofNat ((64 - n) % 64))

/-- How far each lane is turned. -/
def turns : List Nat :=
  [0, 1, 62, 28, 27, 36, 44, 6, 55, 20, 3, 10, 43, 25, 39, 41, 45, 15, 21, 8, 18, 2, 61, 56, 14]

/-- What the first lane is mixed with, round by round. -/
def roundConstants : List UInt64 :=
  [0x0000000000000001, 0x0000000000008082, 0x800000000000808a, 0x8000000080008000,
   0x000000000000808b, 0x0000000080000001, 0x8000000080008081, 0x8000000000008009,
   0x000000000000008a, 0x0000000000000088, 0x0000000080008009, 0x000000008000000a,
   0x000000008000808b, 0x800000000000008b, 0x8000000000008089, 0x8000000000008003,
   0x8000000000008002, 0x8000000000000080, 0x000000000000800a, 0x800000008000000a,
   0x8000000080008081, 0x8000000000008080, 0x0000000080000001, 0x8000000080008008]

/-- Each lane is mixed with the parities of the two columns beside its own. -/
def mixColumns (s : Lanes) : Lanes :=
  let parity := (List.range 5).map fun x =>
    lane s x ^^^ lane s (x + 5) ^^^ lane s (x + 10) ^^^ lane s (x + 15) ^^^ lane s (x + 20)
  build fun i => lane s i ^^^ lane parity ((i + 4) % 5) ^^^ rotate (lane parity ((i + 1) % 5)) 1

/-- Each lane is turned, and the lanes change places. -/
def permute (s : Lanes) : Lanes :=
  build fun i =>
    let source := (i + 3 * (i / 5)) % 5 + 5 * (i % 5)
    rotate (lane s source) (turns.getD source 0)

/-- Each lane is mixed with the two that follow it in its row. -/
def mixRows (s : Lanes) : Lanes :=
  build fun i =>
    let row := 5 * (i / 5)
    lane s i ^^^ (~~~(lane s (row + (i + 1) % 5)) &&& lane s (row + (i + 2) % 5))

def round (s : Lanes) (constant : UInt64) : Lanes :=
  match mixRows (permute (mixColumns s)) with
  | [] => []
  | first :: rest => (first ^^^ constant) :: rest

def permutation (s : Lanes) : Lanes := roundConstants.foldl round s

/-- The bytes of a block that take part in mixing. -/
def blockSize : Nat := 136

def padding (length : Nat) : List UInt8 :=
  let free := blockSize - length % blockSize
  if free = 1 then [0x81] else 0x01 :: List.replicate (free - 2) 0x00 ++ [0x80]

/-- Little end first. -/
def laneOfBytes (bytes : List UInt8) : UInt64 :=
  bytes.foldr (fun b w => (w <<< 8) ||| b.toUInt64) 0

def bytesOfLane (w : UInt64) : List UInt8 :=
  (List.range 8).map fun i => (w >>> UInt64.ofNat (8 * i)).toUInt8

def absorb (s : Lanes) (block : List UInt8) : Lanes :=
  permutation (build fun i => lane s i ^^^ laneOfBytes ((block.drop (8 * i)).take 8))

/-- Takes in the given number of blocks, one after the other. -/
def absorbBlocks : Nat → Lanes → List UInt8 → Lanes
  | 0, s, _ => s
  | n + 1, s, bytes => absorbBlocks n (absorb s (bytes.take blockSize)) (bytes.drop blockSize)

end Keccak

namespace Digest

open Keccak

def keccak256 (message : List UInt8) : Digest :=
  let padded := message ++ padding message.length
  let lanes := absorbBlocks (padded.length / blockSize) (List.replicate 25 0) padded
  ⟨(lanes.take 4).flatMap bytesOfLane⟩

/-- What applications of one account to act on one contract are filed under. -/
def ofPair (source target : Address) : Digest := keccak256 (source.bytes ++ target.bytes)

end Digest

end TermLending
