/-!
# Tokens

A token is named by a string of bytes: a ticker, a dash and six characters that tell tokens of one ticker apart.
The native coin has such a name too, `EGLD-000000`, and the shorter alias `EGLD`.

All tokens are taken to be fungible: units of one name are alike, so a name and an amount say all there is to say of a
payment, and what an account holds of a token is one number. Collections, whose units are told apart by a nonce, are left
out. No contract reads a nonce; each knows a token by its name alone.
-/

namespace TermLending

structure Token where
  bytes : List UInt8
  deriving DecidableEq, Repr

namespace Token

/-- The name of no token. -/
def blank : Token := ⟨[]⟩

/-- The native coin, `EGLD-000000`. -/
def native : Token := ⟨[0x45, 0x47, 0x4c, 0x44, 0x2d, 0x30, 0x30, 0x30, 0x30, 0x30, 0x30]⟩

/-- The alias of the native coin, `EGLD`. -/
def nativeAlias : List UInt8 := [0x45, 0x47, 0x4c, 0x44]

/-- The token that a name from outside stands for. -/
def ofBytes (bytes : List UInt8) : Token :=
  if bytes = nativeAlias then native else ⟨bytes⟩

def isDigit (b : UInt8) : Bool := 0x30 ≤ b && b ≤ 0x39

def isUpper (b : UInt8) : Bool := 0x41 ≤ b && b ≤ 0x5a

def isLower (b : UInt8) : Bool := 0x61 ≤ b && b ≤ 0x7a

def dash : UInt8 := 0x2d

/-- Three to ten capital letters and digits, a dash, then six small letters and digits. -/
def isValid (t : Token) : Bool :=
  let ticker := t.bytes.length - 7
  10 ≤ t.bytes.length && t.bytes.length ≤ 17
    && (t.bytes.take ticker).all (fun b => isUpper b || isDigit b)
    && t.bytes[ticker]? == some dash
    && (t.bytes.drop (ticker + 1)).all (fun b => isLower b || isDigit b)

theorem native_isValid : native.isValid = true := by decide

theorem blank_isValid : blank.isValid = false := by decide

theorem ofBytes_nativeAlias : ofBytes nativeAlias = native := if_pos rfl

theorem ofBytes_of_ne {bytes : List UInt8} (h : bytes ≠ nativeAlias) : ofBytes bytes = ⟨bytes⟩ := if_neg h

end Token

/-- An amount of one token that goes along with a call. Units of a token are alike, so it has no nonce. -/
structure Payment where
  token : Token
  amount : Nat
  deriving DecidableEq, Repr

end TermLending
