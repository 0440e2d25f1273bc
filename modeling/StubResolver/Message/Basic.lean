import StubResolver.Resource.Basic

/-!
# Messages

A message has a header, questions, and three sections of records. A response that a resolver
returns also says how and from where it was received.
-/

namespace StubResolver

/-- The header of a message, without the numbers of entries. -/
structure Header where
  /-- The identifier that a response repeats. -/
  id : UInt16 := 0
  direction : Direction := .query
  opcode : Opcode := .query
  /-- The server has authority over the name. -/
  authoritative : Bool := false
  /-- The message was cut off. -/
  truncated : Bool := false
  /-- The server is asked to find the answer. -/
  recursionDesired : Bool := false
  /-- The server finds answers of others. -/
  recursionAvailable : Bool := false
  /-- A bit without a meaning. -/
  reserved : Bool := false
  /-- The answer was validated. -/
  authenticData : Bool := false
  /-- The server need not validate the answer. -/
  checkingDisabled : Bool := false
  rcode : ResponseCode := .noError
  deriving DecidableEq, Repr

/-- How and from where a response was received. -/
structure Provenance where
  /-- When the request was sent, in seconds since the beginning of 1970. -/
  start : Int
  /-- How long the exchange took. -/
  duration : Duration
  server : Endpoint
  protocol : Protocol
  requestSize : Nat
  responseSize : Nat
  deriving DecidableEq, Repr

/-- A message. -/
structure Message where
  header : Header := {}
  questions : List Question := []
  answers : List Record := []
  authorities : List Record := []
  additionals : List Record := []
  provenance : Option Provenance := none
  deriving DecidableEq, Repr

namespace Message

/-- The server that a response came from. -/
def server? (m : Message) : Option Endpoint := m.provenance.map (·.server)

/-- The records of all sections, in order. -/
def records (m : Message) : List Record := m.answers ++ m.authorities ++ m.additionals

/-- The message with its names in small letters. -/
def fold (m : Message) : Message :=
  { m with
    questions := m.questions.map Question.fold
    answers := m.answers.map Record.fold
    authorities := m.authorities.map Record.fold
    additionals := m.additionals.map Record.fold }

/-- Whether two messages are equal up to the case of letters in names. -/
def same (m n : Message) : Bool := m.fold = n.fold

end Message

end StubResolver
