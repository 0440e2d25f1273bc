import StubResolver.Text.Hex
import StubResolver.Text.Numeral
import StubResolver.Wire.Octets

/-!
# Labels

A label is either text, which is any octets, or a string of bits. Text is compared without regard
to the case of ASCII letters.
-/

namespace StubResolver

/-- A letter of ASCII, as an octet. -/
def isLetter (b : UInt8) : Bool := (0x41 ≤ b && b ≤ 0x5A) || (0x61 ≤ b && b ≤ 0x7A)

/-- The small letter of a capital letter of ASCII; every other octet itself. -/
def lowerOctet (b : UInt8) : UInt8 := if 0x41 ≤ b ∧ b ≤ 0x5A then b + 0x20 else b

/-- One component of a name. -/
inductive Label where
  /-- A label of text. An internationalised label is kept in its ASCII form. -/
  | text (octets : Octets)
  /-- The first `count` bits of the octets, most significant bit first. -/
  | bits (octets : Octets) (count : Nat)
  deriving DecidableEq, Repr

namespace Label

/-- The number of octets that hold so many bits. -/
def octetsFor (count : Nat) : Nat := (count + 7) / 8

/-- The greatest length of a label of text. -/
def maxLength : Nat := 63

/-- The greatest number of bits in a label. -/
def maxBits : Nat := 256

/-- The octet that stands in front of a bit label on the wire. -/
def bitsMark : UInt8 := 0x41

/-- A label that a name on the wire can have. -/
def IsValid : Label → Prop
  | text octets => 1 ≤ octets.length ∧ octets.length ≤ maxLength
  | bits octets count => 1 ≤ count ∧ count ≤ maxBits ∧ octets.length = octetsFor count

instance : DecidablePred IsValid := fun l => by
  cases l <;> unfold IsValid <;> infer_instance

/-! ### Wire form -/

/-- The number of octets on the wire. -/
def wireLength : Label → Nat
  | text octets => 1 + octets.length
  | bits octets _ => 2 + octets.length

/-- The octets on the wire. A label of 256 bits is sent with the count zero. -/
def encode : Label → Octets
  | text octets => .ofNat octets.length :: octets
  | bits octets count => bitsMark :: .ofNat count :: octets

@[simp] theorem length_encode (l : Label) : l.encode.length = l.wireLength := by
  cases l <;> simp [encode, wireLength] <;> omega

/-! ### Comparison -/

/-- The label in small letters. -/
def fold : Label → Label
  | text octets => text (octets.map lowerOctet)
  | bits octets count => bits octets count

/-- What a hash function is fed for a label, piece by piece: the kind, and then each octet in small
letters, or the number of octets, the octets and the number of bits. -/
def hashFeed : Label → List Octets
  | text octets => [0] :: octets.map fun b => [lowerOctet b]
  | bits octets count =>
    [[1], .leastFirst 8 octets.length, octets, .leastFirst 2 count]

/-! ### Text form -/

/-- Letters, digits, the hyphen and the underscore, which stand for themselves. -/
def isPlain (c : Char) : Bool := c.isAlphanum || c == '-' || c == '_'

/-- The text form of an octet: other visible characters follow a backslash, and all else is
written with its three decimal digits. -/
def octetText (b : UInt8) : List Char :=
  let c := Char.ofNat b.toNat
  if isPlain c then [c]
  else if 0x21 ≤ b ∧ b ≤ 0x7E then ['\\', c]
  else '\\' :: Numeral.threeDigits b.toNat

/-- The text form of a label. Bits are written in hexadecimal digits, with their number. -/
def chars : Label → List Char
  | text octets => octets.flatMap octetText
  | bits octets count =>
    ['\\', '[', 'x'] ++ octets.flatMap Hex.upperOctet ++ '/' :: Numeral.toChars count ++ [']']

instance : ToString Label := ⟨fun l => String.ofList l.chars⟩

end Label

end StubResolver
