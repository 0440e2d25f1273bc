import StubResolver.Message.Basic
import StubResolver.Resource.Wire

/-!
# Messages on the wire

Twelve octets of header, in which the numbers of entries of the four sections follow the flags, and
then the entries. A message ends with its last entry.
-/

namespace StubResolver

/-- The number of octets of a header. -/
def Header.length : Nat := 12

/-- The greatest number of entries in a section. -/
def maxEntries : Nat := 65535

namespace Header

/-- The first octet of flags. -/
def firstFlags (h : Header) : UInt8 :=
  .ofNat (128 * h.direction.isResponse.toNat + 8 * h.opcode.code.toNat
    + 4 * h.authoritative.toNat + 2 * h.truncated.toNat + h.recursionDesired.toNat)

/-- The second octet of flags. -/
def secondFlags (h : Header) : UInt8 :=
  .ofNat (128 * h.recursionAvailable.toNat + 64 * h.reserved.toNat + 32 * h.authenticData.toNat
    + 16 * h.checkingDisabled.toNat + h.rcode.code.toNat)

/-- The octets of a header up to the numbers of entries. -/
def encode (h : Header) : Octets := Octets.ofUInt16 h.id ++ [h.firstFlags, h.secondFlags]

/-- Reads a header up to the numbers of entries. -/
def decoder : Decoder Header := do
  let id ← Decoder.uint16
  let first ← Decoder.octet
  let opcode ← opcode (first.toNat / 8 % 16)
  let second ← Decoder.octet
  let rcode ← responseCode (second.toNat % 16)
  return {
    id := id
    direction := .ofBool (first.toNat.testBit 7)
    opcode := opcode
    authoritative := first.toNat.testBit 2
    truncated := first.toNat.testBit 1
    recursionDesired := first.toNat.testBit 0
    recursionAvailable := second.toNat.testBit 7
    reserved := second.toNat.testBit 6
    authenticData := second.toNat.testBit 5
    checkingDisabled := second.toNat.testBit 4
    rcode := rcode }
where
  /-- The opcode of a number that was read. -/
  opcode (n : Nat) : Decoder Opcode :=
    match Opcode.ofCode? n with
    | some o => return o
    | none => Decoder.fail (.format (.unknownOpcode n))
  /-- The response code of a number that was read. -/
  responseCode (n : Nat) : Decoder ResponseCode :=
    match ResponseCode.ofCode? n with
    | some r => return r
    | none => Decoder.fail (.format (.unknownResponseCode n))

end Header

/-- Reads a question. -/
def Question.decoder : Decoder Question := do
  let name ← Name.decoder
  let type ← recordType
  let cls ← Decoder.recordClass
  return ⟨name, type, cls⟩
where
  /-- Reads a type that can be asked for. -/
  recordType : Decoder RecordType := do
    let code ← Decoder.uint16
    match RecordType.ofCode? code.toNat with
    | some t => return t
    | none => Decoder.fail (.format (.unknownType code))

namespace Message

/-! ### Reading -/

/-- Reads a message, which has to end the packet. -/
def decoder : Decoder Message := do
  let header ← Header.decoder
  let questionCount ← Decoder.uint16
  let answerCount ← Decoder.uint16
  let authorityCount ← Decoder.uint16
  let additionalCount ← Decoder.uint16
  let questions ← Decoder.replicate questionCount.toNat Question.decoder
  let answers ← Decoder.replicate answerCount.toNat Record.decoder
  let authorities ← Decoder.replicate authorityCount.toNat Record.decoder
  let additionals ← Decoder.replicate additionalCount.toNat Record.decoder
  atEnd
  return { header, questions, answers, authorities, additionals }
where
  /-- Requires that nothing is left. -/
  atEnd : Decoder Unit := fun p i =>
    if 0 < Decoder.remaining p i then .error (.format (.leftOver (Decoder.remaining p i)))
    else .ok ((), i)

/-- The message that octets stand for. -/
def decode (octets : Octets) : Except Error Message :=
  match decoder octets.toArray 0 with
  | .ok (m, _) => .ok m
  | .error e => .error e

/-- Whether octets have a header that says they were cut off, even if they stand for no
message. -/
def isTruncated (octets : Octets) : Bool :=
  Header.length ≤ octets.length && (octets[2]?.any (·.toNat.testBit 1))

/-! ### Writing -/

/-- The octets of the number of entries in a section. -/
def encodeCount (n : Nat) : Except Error Octets :=
  if maxEntries < n then .error (.format (.tooManyEntries n))
  else .ok (Octets.ofUInt16 (.ofNat n))

/-- The octets of a message. -/
def encode (m : Message) : Except Error Octets := do
  let counts ← [m.questions.length, m.answers.length, m.authorities.length,
    m.additionals.length].mapM encodeCount
  let records ← m.records.mapM Record.encode
  return m.header.encode ++ counts.flatten ++ m.questions.flatMap Question.encode
    ++ records.flatten

end Message

end StubResolver
