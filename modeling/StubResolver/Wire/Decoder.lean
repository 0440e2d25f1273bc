import StubResolver.Error

/-!
# Decoders

A decoder reads a value from a packet, which is the whole of a message, so that compressed names
can be followed. It is given a position and yields the position behind what it read.
-/

namespace StubResolver

/-- The octets of a whole message. -/
abbrev Packet := Array UInt8

/-- Reads a value at a position of a packet, and gives the position behind it. -/
def Decoder (α : Type) := Packet → Nat → Except Error (α × Nat)

namespace Decoder

variable {α β : Type}

instance : Monad Decoder where
  pure a := fun _ i => .ok (a, i)
  bind d f := fun p i =>
    match d p i with
    | .ok (a, j) => f a p j
    | .error e => .error e

/-- The octets that are left from a position on. -/
def remaining (p : Packet) (i : Nat) : Nat := p.size - i

/-- Reads nothing and fails. -/
def fail (e : Error) : Decoder α := fun _ _ => .error e

/-- The present position. -/
def position : Decoder Nat := fun _ i => .ok (i, i)

/-- Reads one octet. -/
def octet : Decoder UInt8 := fun p i =>
  match p[i]? with
  | some b => .ok (b, i + 1)
  | none => .error (.format .shortInput)

/-- Reads so many octets. -/
def octets (n : Nat) : Decoder Octets := fun p i =>
  let found := p.extract i (i + n)
  if found.size = n then .ok (found.toList, i + n) else .error (.format .shortInput)

/-- Reads so many octets into a vector. -/
def vector (n : Nat) : Decoder (Vector UInt8 n) := fun p i =>
  let found := p.extract i (i + n)
  if h : found.size = n then .ok (⟨found, h⟩, i + n) else .error (.format .shortInput)

/-- Reads a number of two octets. -/
def uint16 : Decoder UInt16 := do
  let high ← octet
  let low ← octet
  return Octets.toUInt16 high low

/-- Reads a number of four octets. -/
def uint32 : Decoder UInt32 := do
  let a ← octet
  let b ← octet
  let c ← octet
  let d ← octet
  return Octets.toUInt32 a b c d

/-- Reads so many values with one decoder, behind those that were read before, reversed. -/
def replicateOnto (d : Decoder α) : Nat → List α → Decoder (List α)
  | 0, done => fun _ i => .ok (done.reverse, i)
  | n + 1, done => fun p i =>
    match d p i with
    | .ok (a, j) => replicateOnto d n (a :: done) p j
    | .error e => .error e

/-- Reads so many values with one decoder. -/
def replicate (n : Nat) (d : Decoder α) : Decoder (List α) := replicateOnto d n []

end Decoder

end StubResolver
