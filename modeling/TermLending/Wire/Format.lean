import TermLending.Address
import TermLending.Event
import TermLending.Token
import TermLending.Wire.Bytes

/-!
# Formats

A format writes values as bytes and reads them back from the front of a list of bytes. Formats are put together from
smaller ones, field by field, so a record is written without any marks between its fields.
-/

namespace TermLending.Wire

inductive ReadFault where
  | tooShort
  | tooLong
  | invalid
  deriving DecidableEq, Repr

def ReadFault.message : ReadFault → String
  | tooShort => "input too short"
  | tooLong => "input too long"
  | invalid => "invalid value"

/-- Reads a value from the front, and leaves the rest. -/
abbrev Reader (α : Type) := List UInt8 → Except ReadFault (α × List UInt8)

structure Format (α : Type) where
  write : α → List UInt8
  read : Reader α

namespace Format

variable {α β : Type}

/-- Reads a value that takes up all bytes. -/
def decode (f : Format α) (bytes : List UInt8) : Except ReadFault α := do
  let (a, rest) ← f.read bytes
  if rest.isEmpty then return a else .error .tooLong

def readBytes (count : Nat) : Reader (List UInt8) := fun bytes =>
  if count ≤ bytes.length then .ok (bytes.take count, bytes.drop count) else .error .tooShort

/-- A number of a given width. -/
def fixed (width : Nat) : Format Nat where
  write := bigEndian width
  read bytes := do
    let (digits, rest) ← readBytes width bytes
    return (ofBigEndian digits, rest)

/-- Bytes after their number. -/
def blob : Format (List UInt8) where
  write bytes := (fixed 4).write bytes.length ++ bytes
  read bytes := do
    let (length, rest) ← (fixed 4).read bytes
    readBytes length rest

/-- A format for the values that another one's values stand for. A value that stands for nothing is invalid. -/
def via (f : Format α) (unpack : β → α) (pack : α → Option β) : Format β where
  write b := f.write (unpack b)
  read bytes := do
    let (a, rest) ← f.read bytes
    match pack a with
    | some b => return (b, rest)
    | none => .error .invalid

/-- One value after another. -/
def pair (f : Format α) (g : Format β) : Format (α × β) where
  write p := f.write p.1 ++ g.write p.2
  read bytes := do
    let (a, rest) ← f.read bytes
    let (b, rest) ← g.read rest
    return ((a, b), rest)

/-- Reads a given number of values. -/
def readMany (f : Format α) : Nat → Reader (List α)
  | 0, bytes => .ok ([], bytes)
  | count + 1, bytes => do
      let (a, rest) ← f.read bytes
      let (as, rest) ← f.readMany count rest
      return (a :: as, rest)

/-- Values after their number. -/
def many (f : Format α) : Format (List α) where
  write as := (fixed 4).write as.length ++ as.flatMap f.write
  read bytes := do
    let (count, rest) ← (fixed 4).read bytes
    f.readMany count rest

/-! ### Plain values -/

def u64 : Format Nat := fixed 8

def u8 : Format Nat := fixed 1

/-- A number of any size. Leading zeros are read, but not written. -/
def natural : Format Nat := blob.via minimal (some <| ofBigEndian ·)

def flag : Format Bool := u8.via Bool.toNat fun
  | 0 => some false
  | 1 => some true
  | _ => none

def address : Format Address where
  write a := a.bytes
  read bytes := do
    let (digits, rest) ← readBytes 32 bytes
    match Address.ofBytes? digits with
    | some a => return (a, rest)
    | none => .error .invalid

def token : Format Token := blob.via Token.bytes (some <| Token.ofBytes ·)

/-- The place of a phase among the phases. -/
def phaseNumber : Phase → Nat
  | .matching => 0
  | .running => 1
  | .finished => 2
  | .liquidated => 3

def phaseOfNumber : Nat → Option Phase
  | 0 => some .matching
  | 1 => some .running
  | 2 => some .finished
  | 3 => some .liquidated
  | _ => none

def phase : Format Phase := u8.via phaseNumber phaseOfNumber

end Format

/-! ### A phase alone

A phase that is not part of a record is written as a number without leading zeros. -/

def writePhase (p : Phase) : List UInt8 := minimal (Format.phaseNumber p)

/-- A number of at most eight bytes, which must fit one. -/
def decodePhase (bytes : List UInt8) : Except ReadFault Phase :=
  let n := ofBigEndian bytes
  if 8 < bytes.length ∨ 255 < n then .error .tooLong
  else match Format.phaseOfNumber n with
    | some p => .ok p
    | none => .error .invalid

end TermLending.Wire
