import TermLending.Address
import TermLending.Digest
import TermLending.Text.Hex
import TermLending.Text.Utf8
import TermLending.Token

/-!
# Names

How addresses, tokens and digests are written for people. An address of a user or a contract spells a short name,
filled up with underscores; any other one is written in hexadecimal digits. The native coin goes by its alias.
-/

namespace TermLending

def textBytes (s : String) : List UInt8 := s.toUTF8.toList

namespace Address

/-- What short names are filled up with. -/
def filler : UInt8 := 0x5f

def fill (width : Nat) (name : List UInt8) : List UInt8 :=
  name ++ List.replicate (width - name.length) filler

/-- What the address of every contract begins with. -/
def contractStart : List UInt8 := [0, 0, 0, 0, 0, 0, 0, 0, 5, 0]

/-- What follows a tag at the start of a text, if it starts so. -/
def afterTag? (tag s : String) : Option String := (tag.toList.isPrefixOf? s.toList).map String.ofList

def ofText? (s : String) : Option Address :=
  if s = "zero" then some zero
  else match afterTag? "user:" s, afterTag? "sc:" s with
    | some name, _ => ofBytes? (fill 32 (textBytes name))
    | none, some name => ofBytes? (contractStart ++ fill 22 (textBytes name))
    | none, none => (Hex.toBytes? (s.toList.drop 2)).bind ofBytes?

def isNameByte (b : UInt8) : Bool := Token.isUpper b || Token.isLower b || Token.isDigit b || b == Token.dash

/-- The name that some bytes spell, if they do. -/
def nameIn? (bytes : List UInt8) : Option String :=
  let name := (bytes.reverse.dropWhile (· == filler)).reverse
  if !name.isEmpty && name.all isNameByte then some (String.ofList (Utf8.toChars name)) else none

def toText (a : Address) : String :=
  let hex := "0x" ++ String.ofList (Hex.ofBytes a.bytes)
  if a = zero then "zero"
  else if a.bytes.take 10 = contractStart then
    (nameIn? (a.bytes.drop 10)).elim hex ("sc:" ++ ·)
  else (nameIn? a.bytes).elim hex ("user:" ++ ·)

end Address

namespace Token

def ofText (s : String) : Token := ofBytes (textBytes s)

def toText (t : Token) : String :=
  String.ofList (Utf8.toChars (if t = native then nativeAlias else t.bytes))

end Token

namespace Digest

def ofText? (s : String) : Option Digest := (Hex.toBytes? (s.toList.drop 2)).map (⟨·⟩)

def toText (d : Digest) : String := "0x" ++ String.ofList (Hex.ofBytes d.bytes)

end Digest

end TermLending
