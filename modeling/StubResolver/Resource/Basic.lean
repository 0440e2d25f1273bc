import StubResolver.Duration
import StubResolver.Resource.Mailbox

/-!
# Resources and records

A resource is the data of a record, decoded if its type is known. A record is a resource with an
owner name, a class and the time for which it may be kept.
-/

namespace StubResolver

/-- Where the authority over a zone begins. -/
structure Authority where
  /-- The name of the server that the zone is maintained on. -/
  primary : Name
  /-- The mailbox of who is responsible for the zone. -/
  mailbox : Mailbox
  /-- The version of the zone. -/
  serial : UInt32
  /-- The time until a copy of the zone is refreshed. -/
  refresh : Duration
  /-- The time until a failed refresh is tried again. -/
  retry : Duration
  /-- The time after which a copy that was not refreshed is given up. -/
  expire : Duration
  /-- The time for which it may be kept that a name does not exist. -/
  minimum : Duration
  deriving DecidableEq, Repr

/-- The data of a record. -/
inductive Resource where
  /-- An address. -/
  | a (ip : Ipv4)
  /-- An address of the newer version. -/
  | aaaa (ip : Ipv6)
  /-- A name server. -/
  | ns (server : Name)
  /-- The name that an alias stands for. -/
  | cname (target : Name)
  /-- A host that takes mail. Lower preferences come first. -/
  | mx (preference : UInt16) (exchange : Name)
  /-- The start of a zone. -/
  | soa (authority : Authority)
  /-- Strings of text. -/
  | txt (strings : List Octets)
  /-- The data of a record of any other type. -/
  | unknown (code : UInt16) (data : Octets)
  deriving DecidableEq, Repr

namespace Resource

/-- The record type of decoded data. -/
def type? : Resource → Option RecordType
  | a _ => some .a
  | aaaa _ => some .aaaa
  | ns _ => some .ns
  | cname _ => some .cname
  | mx _ _ => some .mx
  | soa _ => some .soa
  | txt _ => some .txt
  | unknown _ _ => none

/-- The number of the record type. -/
def typeCode : Resource → UInt16
  | a _ => RecordType.a.code
  | aaaa _ => RecordType.aaaa.code
  | ns _ => RecordType.ns.code
  | cname _ => RecordType.cname.code
  | mx _ _ => RecordType.mx.code
  | soa _ => RecordType.soa.code
  | txt _ => RecordType.txt.code
  | unknown code _ => code

/-- The resource with its names in small letters. -/
def fold : Resource → Resource
  | ns server => ns server.fold
  | cname target => cname target.fold
  | mx preference exchange => mx preference exchange.fold
  | soa s => soa { s with primary := s.primary.fold, mailbox := s.mailbox.fold }
  | r => r

/-- Whether two resources are equal up to the case of letters in names. -/
def same (r s : Resource) : Bool := r.fold = s.fold

end Resource

/-- A resource record. -/
structure Record where
  name : Name := .root
  cls : RecordClass := .internet
  /-- The time for which the record may be kept. -/
  ttl : Duration := { seconds := 0 }
  resource : Resource
  deriving DecidableEq, Repr

/-- The record with its names in small letters. -/
def Record.fold (r : Record) : Record :=
  { r with name := r.name.fold, resource := r.resource.fold }

end StubResolver
