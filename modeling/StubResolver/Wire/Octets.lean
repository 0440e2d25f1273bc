/-!
# Numbers on the wire

Numbers of two and four octets are sent with the most significant octet first. Hash functions are
fed numbers with the least significant octet first.
-/

namespace StubResolver

/-- A sequence of octets. -/
abbrev Octets := List UInt8

namespace Octets

/-- The two octets of a number. -/
def ofUInt16 (n : UInt16) : Octets := [.ofNat (n.toNat / 256), .ofNat n.toNat]

/-- The four octets of a number. -/
def ofUInt32 (n : UInt32) : Octets :=
  [.ofNat (n.toNat / 16777216), .ofNat (n.toNat / 65536), .ofNat (n.toNat / 256), .ofNat n.toNat]

/-- A number in so many octets, with the least significant octet first. -/
def leastFirst : (width n : Nat) → Octets
  | 0, _ => []
  | width + 1, n => .ofNat n :: leastFirst width (n / 256)

/-- The number that two octets stand for. -/
def toUInt16 (high low : UInt8) : UInt16 := .ofNat (256 * high.toNat + low.toNat)

/-- The number that four octets stand for. -/
def toUInt32 (a b c d : UInt8) : UInt32 :=
  .ofNat (16777216 * a.toNat + 65536 * b.toNat + 256 * c.toNat + d.toNat)

/-- Two octets of a number stand for that number. -/
theorem toUInt16_ofUInt16 (n : UInt16) :
    toUInt16 (.ofNat (n.toNat / 256)) (.ofNat n.toNat) = n := by
  apply UInt16.toNat_inj.1
  have := n.toNat_lt
  simp only [toUInt16, UInt16.toNat_ofNat', UInt8.toNat_ofNat']
  omega

/-- Four octets of a number stand for that number. -/
theorem toUInt32_ofUInt32 (n : UInt32) :
    toUInt32 (.ofNat (n.toNat / 16777216)) (.ofNat (n.toNat / 65536)) (.ofNat (n.toNat / 256))
      (.ofNat n.toNat) = n := by
  apply UInt32.toNat_inj.1
  have := n.toNat_lt
  simp only [toUInt32, UInt32.toNat_ofNat', UInt8.toNat_ofNat']
  omega

end Octets

end StubResolver
