import StubResolver.Text.Numeral

/-!
# IPv4 addresses

The text form is four decimal numbers with points between them. A number has at most three digits
and no leading zero.
-/

namespace StubResolver

/-- An address of four octets. -/
structure Ipv4 where
  octets : Vector UInt8 4
  deriving DecidableEq, Repr

namespace Ipv4

/-- The address of four octets, in order. -/
def ofOctets (a b c d : UInt8) : Ipv4 := ⟨#v[a, b, c, d]⟩

/-- The text form. -/
def text (ip : Ipv4) : String :=
  ".".intercalate (ip.octets.toList.map fun b => toString b.toNat)

instance : ToString Ipv4 := ⟨text⟩

/-! ### Reading -/

/-- Reads one number from the front of a text. -/
def readOctet (cs : List Char) : Option (UInt8 × List Char) :=
  let digits := cs.takeWhile Char.isDigit
  if digits.length = 0 ∨ 3 < digits.length ∨ (1 < digits.length ∧ digits.head? = some '0') then none
  else match Numeral.ofDigits 255 digits with
    | .ok n => some (.ofNat n, cs.dropWhile Char.isDigit)
    | .error _ => none

/-- Reads a point and one number. -/
def readPointOctet : List Char → Option (UInt8 × List Char)
  | '.' :: cs => readOctet cs
  | _ => none

/-- Reads an address from the front of a text. -/
def read (cs : List Char) : Option (Ipv4 × List Char) := do
  let (a, cs) ← readOctet cs
  let (b, cs) ← readPointOctet cs
  let (c, cs) ← readPointOctet cs
  let (d, cs) ← readPointOctet cs
  return (ofOctets a b c d, cs)

/-- The address that a whole text writes. -/
def ofChars? (cs : List Char) : Option Ipv4 :=
  match read cs with
  | some (ip, []) => some ip
  | _ => none

end Ipv4

end StubResolver
