import StubResolver.Name.Wire
import StubResolver.Resource.Basic

/-!
# Resources and records on the wire

The data of a record follow their length, and have to end exactly there. Names among the data are
compressed in what is read, and never in what is written. Times are sent as whole seconds in 31
bits: a longer time is cut off, and a negative one is read as zero.
-/

namespace StubResolver

/-! ### Times -/

/-- The longest time that is sent, in seconds. -/
def maxSeconds : Nat := 0x7FFFFFFF

/-- The octets of a time. -/
def encodeSeconds (d : Duration) : Octets := Octets.ofUInt32 (.ofNat (min d.seconds maxSeconds))

/-- Reads a time. -/
def Decoder.seconds : Decoder Duration := do
  let n ← uint32
  return { seconds := if n.toNat ≤ maxSeconds then n.toNat else 0 }

/-- Reads a class. -/
def Decoder.recordClass : Decoder RecordClass := do
  let code ← uint16
  match RecordClass.ofCode? code.toNat with
  | some c => return c
  | none => fail (.format (.unknownClass code))

namespace Resource

/-! ### Reading -/

/-- Reads strings until a position is reached, behind those that were read before, reversed. -/
def stringsOnto (stop : Nat) (done : List Octets) (p : Packet) (i : Nat) :
    Except Error (List Octets × Nat) :=
  if i < stop then
    match Decoder.octet p i with
    | .error e => .error e
    | .ok (n, _) =>
      match Decoder.octets n.toNat p (i + 1) with
      | .error e => .error e
      | .ok (s, _) => stringsOnto stop (s :: done) p (i + 1 + n.toNat)
  else .ok (done.reverse, i)
termination_by stop - i

/-- Reads the strings of a text record with so many octets of data. -/
def strings (length : Nat) : Decoder (List Octets) := fun p i => stringsOnto (i + length) [] p i

/-- Reads the start of a zone. -/
def authority : Decoder Authority := do
  let primary ← Name.decoder
  let mailbox ← Name.decoder
  let serial ← Decoder.uint32
  let refresh ← Decoder.seconds
  let retry ← Decoder.seconds
  let expire ← Decoder.seconds
  let minimum ← Decoder.seconds
  return ⟨primary, .ofName mailbox, serial, refresh, retry, expire, minimum⟩

/-- Reads data of a type. The length decides where the strings of a text record end, and has to be
that of an address. -/
def content (type : RecordType) (length : Nat) : Decoder Resource :=
  match type with
  | .a =>
    if length ≠ 4 then Decoder.fail (.format (.addressLength .a length 4))
    else return .a ⟨← Decoder.vector 4⟩
  | .aaaa =>
    if length ≠ 16 then Decoder.fail (.format (.addressLength .aaaa length 16))
    else return .aaaa ⟨← Decoder.vector 16⟩
  | .ns => return .ns (← Name.decoder)
  | .cname => return .cname (← Name.decoder)
  | .mx => do
    let preference ← Decoder.uint16
    return .mx preference (← Name.decoder)
  | .soa => return .soa (← authority)
  | .txt => return .txt (← strings length)

/-- Reads the data of a record, which have to take up exactly their length. Data of a type that is
not decoded are refused before anything is read. -/
def decoder (code : UInt16) (length : Nat) : Decoder Resource :=
  match RecordType.ofCode? code.toNat with
  | none => Decoder.fail (.unsupportedRecordType code)
  | some type => do
    let start ← Decoder.position
    let resource ← content type length
    let stop ← Decoder.position
    if stop - start = length then return resource
    else Decoder.fail (.format (.dataLength type (stop - start) length))

/-! ### Writing -/

/-- The octets of a string, behind its length. -/
def encodeString (s : Octets) : Except Error Octets :=
  if maxStringLength < s.length then .error (.format (.stringTooLong s.length))
  else .ok (.ofNat s.length :: s)

/-- The octets of the data, without their length. -/
def encode : Resource → Except Error Octets
  | a ip => .ok ip.octets.toList
  | aaaa ip => .ok ip.octets.toList
  | ns server => .ok server.encode
  | cname target => .ok target.encode
  | mx preference exchange => .ok (Octets.ofUInt16 preference ++ exchange.encode)
  | soa s => do
    let mailbox ← s.mailbox.toName
    return s.primary.encode ++ mailbox.encode ++ Octets.ofUInt32 s.serial
      ++ encodeSeconds s.refresh ++ encodeSeconds s.retry ++ encodeSeconds s.expire
      ++ encodeSeconds s.minimum
  | txt strings => return (← strings.mapM encodeString).flatten
  | unknown _ data => .ok data

end Resource

namespace Record

/-- The greatest length of the data of a record. -/
def maxDataLength : Nat := 65535

/-- Reads a record. Data of a type that is not decoded are kept as they are. -/
def decoder : Decoder Record := do
  let name ← Name.decoder
  let code ← Decoder.uint16
  let cls ← Decoder.recordClass
  let ttl ← Decoder.seconds
  let length ← Decoder.uint16
  let resource ← data code length.toNat
  return ⟨name, cls, ttl, resource⟩
where
  /-- Reads data whose length must fit into what remains. -/
  data (code : UInt16) (length : Nat) : Decoder Resource := fun p i =>
    if Decoder.remaining p i < length then
      .error (.truncatedRecord length (Decoder.remaining p i))
    else
      match Resource.decoder code length p i with
      | .error (.unsupportedRecordType code) =>
        ((Resource.unknown code ·) <$> Decoder.octets length) p i
      | result => result

/-- The octets of a record. -/
def encode (r : Record) : Except Error Octets := do
  let data ← r.resource.encode
  if maxDataLength < data.length then .error (.format (.dataTooLong data.length))
  else return r.name.encode ++ Octets.ofUInt16 r.resource.typeCode ++ Octets.ofUInt16 r.cls.code
    ++ encodeSeconds r.ttl ++ Octets.ofUInt16 (.ofNat data.length) ++ data

end Record

end StubResolver
