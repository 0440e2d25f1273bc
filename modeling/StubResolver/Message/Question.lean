import StubResolver.Message.Codes
import StubResolver.Name.Basic

/-!
# Questions and queries

A question is what a message asks: a name, a type and a class. A query is a question with the
header flags to send it with.
-/

namespace StubResolver

/-- What is asked, as a response echoes it. -/
structure Question where
  name : Name := .root
  type : RecordType := .a
  cls : RecordClass := .internet
  deriving DecidableEq, Repr

namespace Question

/-- The question in small letters. -/
def fold (q : Question) : Question := { q with name := q.name.fold }

/-- The octets on the wire. -/
def encode (q : Question) : Octets :=
  q.name.encode ++ Octets.ofUInt16 q.type.code ++ Octets.ofUInt16 q.cls.code

end Question

/-- The header flags of a query. -/
structure Flags where
  opcode : Opcode := .query
  recursionDesired : Bool := true
  authenticData : Bool := false
  checkingDisabled : Bool := false
  deriving DecidableEq, Repr

/-- A question to send. -/
structure Query where
  name : Name
  type : RecordType := .a
  cls : RecordClass := .internet
  flags : Flags := {}
  deriving DecidableEq, Repr

namespace Query

/-- The question of a query. -/
def question (q : Query) : Question := ⟨q.name, q.type, q.cls⟩

/-- The query for another name. -/
def withName (q : Query) (name : Name) : Query := { q with name := name }

/-- The query with the case of the letters of its name changed. -/
def recase (bits : Nat → Bool) (q : Query) : Query := q.withName (q.name.recase bits)

/-! ### Comparison -/

/-- Whether a query asks a question. -/
def asks (q : Query) (p : Question) : Bool :=
  q.name.same p.name && q.type == p.type && q.cls == p.cls

/-- Whether two queries ask the same. Their flags do not count, as they do not decide which
answers match. -/
def same (p q : Query) : Bool := p.name.same q.name && p.type == q.type && p.cls == q.cls

/-- What a hash function is fed for a query, piece by piece. -/
def hashFeed (q : Query) : List Octets :=
  q.name.hashFeed ++ [.leastFirst 2 q.type.code.toNat, .leastFirst 2 q.cls.code.toNat]

/-! ### Wire form -/

/-- The number of octets on the wire, found without encoding. -/
def wireLength (q : Query) : Nat := 12 + q.name.wireLength + 4

/-- The message that sends the query with an identifier. -/
def encode (q : Query) (id : UInt16) : Octets :=
  let first := 8 * q.flags.opcode.code.toNat + q.flags.recursionDesired.toNat
  let second := 32 * q.flags.authenticData.toNat + 16 * q.flags.checkingDisabled.toNat
  Octets.ofUInt16 id ++ [.ofNat first, .ofNat second] ++ [0, 1, 0, 0, 0, 0, 0, 0]
    ++ q.name.encode ++ Octets.ofUInt16 q.type.code ++ Octets.ofUInt16 q.cls.code

end Query

end StubResolver
