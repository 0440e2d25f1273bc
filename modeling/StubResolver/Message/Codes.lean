/-!
# Code points of the protocol

Record types, classes, opcodes and response codes, each with its number on the wire and its name.
-/

namespace StubResolver

/-! ### Record types -/

/-- The record types that are decoded. -/
inductive RecordType where
  | a
  | ns
  | cname
  | soa
  | mx
  | txt
  | aaaa
  deriving DecidableEq, Repr

namespace RecordType

/-- Every record type. -/
def all : List RecordType := [a, ns, cname, soa, mx, txt, aaaa]

/-- The number on the wire. -/
def code : RecordType → UInt16
  | a => 1
  | ns => 2
  | cname => 5
  | soa => 6
  | mx => 15
  | txt => 16
  | aaaa => 28

/-- The name. -/
def text : RecordType → String
  | a => "A"
  | ns => "NS"
  | cname => "CNAME"
  | soa => "SOA"
  | mx => "MX"
  | txt => "TXT"
  | aaaa => "AAAA"

instance : ToString RecordType := ⟨text⟩

/-- The record type of a number. -/
def ofCode? (n : Nat) : Option RecordType := all.find? (·.code.toNat == n)

/-- The record type of a name. -/
def ofText? (s : String) : Option RecordType := all.find? (·.text == s)

@[simp] theorem ofCode?_code (t : RecordType) : ofCode? t.code.toNat = some t := by
  cases t <;> rfl

end RecordType

/-! ### Classes -/

/-- The classes of records. -/
inductive RecordClass where
  | reserved
  | internet
  | csnet
  | chaos
  | hesiod
  | none
  | any
  deriving DecidableEq, Repr

namespace RecordClass

/-- Every class. -/
def all : List RecordClass := [reserved, internet, csnet, chaos, hesiod, none, any]

/-- The number on the wire. -/
def code : RecordClass → UInt16
  | reserved => 0
  | internet => 1
  | csnet => 2
  | chaos => 3
  | hesiod => 4
  | none => 254
  | any => 255

/-- The name. -/
def text : RecordClass → String
  | reserved => "Reserved"
  | internet => "IN"
  | csnet => "CS"
  | chaos => "CH"
  | hesiod => "HS"
  | none => "None"
  | any => "*"

instance : ToString RecordClass := ⟨text⟩

/-- The class of a number. -/
def ofCode? (n : Nat) : Option RecordClass := all.find? (·.code.toNat == n)

/-- The class of a name. -/
def ofText? (s : String) : Option RecordClass := all.find? (·.text == s)

@[simp] theorem ofCode?_code (t : RecordClass) : ofCode? t.code.toNat = some t := by
  cases t <;> rfl

end RecordClass

/-! ### Opcodes -/

/-- The kinds of requests. -/
inductive Opcode where
  | query
  | inverseQuery
  | status
  | notify
  | update
  | stateful
  deriving DecidableEq, Repr

namespace Opcode

/-- Every opcode. -/
def all : List Opcode := [query, inverseQuery, status, notify, update, stateful]

/-- The number on the wire. -/
def code : Opcode → UInt8
  | query => 0
  | inverseQuery => 1
  | status => 2
  | notify => 4
  | update => 5
  | stateful => 6

/-- The name. -/
def text : Opcode → String
  | query => "Query"
  | inverseQuery => "IQuery"
  | status => "Status"
  | notify => "Notify"
  | update => "Update"
  | stateful => "DSO"

instance : ToString Opcode := ⟨text⟩

/-- The opcode of a number. -/
def ofCode? (n : Nat) : Option Opcode := all.find? (·.code.toNat == n)

/-- The opcode of a name. -/
def ofText? (s : String) : Option Opcode := all.find? (·.text == s)

@[simp] theorem ofCode?_code (t : Opcode) : ofCode? t.code.toNat = some t := by
  cases t <;> rfl

end Opcode

/-! ### Response codes -/

/-- The outcomes that a server reports. -/
inductive ResponseCode where
  | noError
  | formatError
  | serverFailure
  | nameError
  | notImplemented
  | refused
  | nameExists
  | setExists
  | setMissing
  | notAuthoritative
  | notInZone
  | typeNotImplemented
  deriving DecidableEq, Repr

namespace ResponseCode

/-- Every response code. -/
def all : List ResponseCode :=
  [noError, formatError, serverFailure, nameError, notImplemented, refused, nameExists, setExists,
    setMissing, notAuthoritative, notInZone, typeNotImplemented]

/-- The number on the wire. -/
def code : ResponseCode → UInt8
  | noError => 0
  | formatError => 1
  | serverFailure => 2
  | nameError => 3
  | notImplemented => 4
  | refused => 5
  | nameExists => 6
  | setExists => 7
  | setMissing => 8
  | notAuthoritative => 9
  | notInZone => 10
  | typeNotImplemented => 11

/-- The name. -/
def text : ResponseCode → String
  | noError => "NoError"
  | formatError => "FormErr"
  | serverFailure => "ServFail"
  | nameError => "NXDomain"
  | notImplemented => "NotImp"
  | refused => "Refused"
  | nameExists => "YXDomain"
  | setExists => "YXRRSet"
  | setMissing => "NXRRSet"
  | notAuthoritative => "NotAuth"
  | notInZone => "NotZone"
  | typeNotImplemented => "DSOTYPENI"

instance : ToString ResponseCode := ⟨text⟩

/-- The response code of a number. -/
def ofCode? (n : Nat) : Option ResponseCode := all.find? (·.code.toNat == n)

/-- The response code of a name. -/
def ofText? (s : String) : Option ResponseCode := all.find? (·.text == s)

@[simp] theorem ofCode?_code (t : ResponseCode) : ofCode? t.code.toNat = some t := by
  cases t <;> rfl

end ResponseCode

/-! ### Direction -/

/-- Whether a message asks or answers. -/
inductive Direction where
  | query
  | response
  deriving DecidableEq, Repr

namespace Direction

/-- The bit on the wire. -/
def isResponse : Direction → Bool
  | query => false
  | response => true

/-- The direction of a bit. -/
def ofBool : Bool → Direction
  | false => query
  | true => response

/-- The name. -/
def text : Direction → String
  | query => "Query"
  | response => "Response"

instance : ToString Direction := ⟨text⟩

/-- The direction of a name. -/
def ofText? (s : String) : Option Direction := [query, response].find? (·.text == s)

@[simp] theorem ofBool_isResponse (d : Direction) : ofBool d.isResponse = d := by cases d <;> rfl

end Direction

/-! ### Transport protocols -/

/-- What carries an exchange with a server. -/
inductive Protocol where
  | udp
  | tcp
  deriving DecidableEq, Repr

namespace Protocol

/-- The name. -/
def text : Protocol → String
  | udp => "UDP"
  | tcp => "TCP"

instance : ToString Protocol := ⟨text⟩

end Protocol

end StubResolver
