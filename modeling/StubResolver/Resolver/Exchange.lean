import StubResolver.Message.Basic

/-!
# Exchanges

An exchange sends a request to a server and yields what comes back. Everything that a resolver
does not decide itself is given to it: what comes back, identifiers, random bits, which attempts
cannot be started beside others, and the order in which they end. A run of a resolver has a
result, and the exchanges that were made.
-/

namespace StubResolver

/-- A request to a server. -/
structure Exchange where
  protocol : Protocol
  server : Endpoint
  /-- The time that the exchange is given. -/
  timeout : Duration
  request : Octets
  deriving DecidableEq, Repr

/-- What came back from a server, and when the request was sent and how long it took. -/
structure Delivery where
  octets : Octets
  /-- In seconds since the beginning of 1970. -/
  start : Int := 0
  duration : Duration := { seconds := 0 }
  deriving DecidableEq, Repr

/-- What surrounds one call of a resolver. Servers are numbered in their order in the
configuration, as one may be listed twice. -/
structure Surroundings where
  /-- The identifier of the requests. -/
  id : UInt16
  /-- The random bits for the request to a server. -/
  bits : (server : Nat) → Protocol → Nat → Bool
  /-- What comes back from a server, or why nothing does. -/
  reply : (server : Nat) → Exchange → Except String Delivery
  /-- Why the attempt with a server cannot be started beside others, unless it can. -/
  unstarted : (server : Nat) → Option String := fun _ => none
  /-- The order in which the attempts with the servers end. -/
  order : List Nat

/-- A run of a resolver. -/
structure Run (α : Type) where
  result : Except Error α
  /-- The exchanges that were made, in order. -/
  exchanges : List Exchange

namespace Run

variable {α β : Type}

/-- A run without exchanges. -/
def ofResult (result : Except Error α) : Run α := ⟨result, []⟩

/-- The results of several runs, made into one, and their exchanges, one run after the other. -/
def combine (f : List (Except Error α) → Except Error β) (runs : List (Run α)) : Run β :=
  ⟨f (runs.map (·.result)), runs.flatMap (·.exchanges)⟩

end Run

end StubResolver
