import StubResolver.Message.Wire
import StubResolver.Resolver.Config
import StubResolver.Resolver.Exchange

/-!
# Attempts

An attempt asks one server. It begins with UDP, if the query is small enough, and goes on with TCP
if UDP failed or the response was cut off. A response has to answer the query that was sent. Where
servers are asked at once, each attempt is started in a thread of its own.
-/

namespace StubResolver

/-- The greatest size of a query that is sent by UDP. -/
def maxUdpQuery : Nat := 512

/-- The greatest size of a query that is sent by TCP, where two octets hold the size. -/
def maxTcpQuery : Nat := 65535

/-- A query that can be sent to the servers of a configuration. -/
structure Call where
  config : Config
  query : Query
  /-- Attempts begin with UDP. -/
  useUdp : Bool
  deriving DecidableEq, Repr

namespace Call

/-- Checks that a query can be sent at all. -/
def prepare (config : Config) (query : Query) : Except Error Call :=
  let size := query.wireLength
  let useUdp := config.udp && decide (size ≤ maxUdpQuery)
  if config.servers.isEmpty then .error (.invalidArgument .noServers)
  else if !config.udp && !config.tcp then .error (.invalidArgument .noProtocol)
  else if !useUdp && !config.tcp then .error (.capacity size maxUdpQuery)
  else if maxTcpQuery < size then .error (.capacity size maxTcpQuery)
  else .ok ⟨config, query, useUdp⟩

/-! ### One exchange -/

/-- The request for the server with a number. -/
def request (c : Call) (s : Surroundings) (i : Nat) (protocol : Protocol) : Octets :=
  let query := if c.config.randomCase then c.query.recase (s.bits i protocol) else c.query
  query.encode s.id

/-- The exchange with the server with a number. -/
def exchange (c : Call) (s : Surroundings) (i : Nat) (server : Endpoint) (protocol : Protocol) :
    Exchange where
  protocol := protocol
  server := server
  timeout := c.config.effectiveTimeout
  request := c.request s i protocol

/-- Sends a request. -/
def send (s : Surroundings) (i : Nat) (e : Exchange) : Except Error Delivery :=
  (s.reply i e).mapError (.transport e.server e.protocol)

/-- Whether a message answers a query that was sent with an identifier. -/
def check (q : Query) (id : UInt16) (m : Message) : Except Mismatch Unit :=
  if m.header.id ≠ id then .error (.id m.header.id id)
  else if m.header.direction ≠ .response then .error .notResponse
  else match m.questions with
    | [p] => if q.asks p then .ok () else .error (.question q.question)
    | _ => .error (.question q.question)

/-- The response that came back, with how it was received. -/
def accept (c : Call) (s : Surroundings) (e : Exchange) (d : Delivery) : Except Error Message := do
  let m ← Message.decode d.octets
  (check c.query s.id m).mapError (.validation e.server)
  return { m with
    provenance := some ⟨d.start, d.duration, e.server, e.protocol, e.request.length,
      d.octets.length⟩ }

/-! ### One server -/

/-- Asks a server by TCP. -/
def overTcp (c : Call) (s : Surroundings) (i : Nat) (server : Endpoint) : Run Message :=
  let e := c.exchange s i server .tcp
  ⟨send s i e >>= c.accept s e, [e]⟩

/-- Asks a server, by UDP if the call begins with it, and by TCP if UDP failed or the response was
cut off. If both fail, both errors are kept. -/
def attempt (c : Call) (s : Surroundings) (i : Nat) (server : Endpoint) : Run Message :=
  if c.useUdp then
    let e := c.exchange s i server .udp
    match send s i e with
    | .error udpError =>
      if c.config.tcp then
        let tcp := c.overTcp s i server
        ⟨tcp.result.mapError fun tcpError => .aggregate [udpError, tcpError], e :: tcp.exchanges⟩
      else ⟨.error udpError, [e]⟩
    | .ok d =>
      if c.config.tcp && Message.isTruncated d.octets then
        let tcp := c.overTcp s i server
        ⟨tcp.result, e :: tcp.exchanges⟩
      else ⟨c.accept s e d, [e]⟩
  else c.overTcp s i server

/-! ### Servers at once -/

/-- The protocol that attempts begin with. -/
def firstProtocol (c : Call) : Protocol := if c.useUdp then .udp else .tcp

/-- The attempt with a server beside others. If it cannot be started, its first protocol has failed
without an exchange. -/
def launch (c : Call) (s : Surroundings) (i : Nat) (server : Endpoint) : Run Message :=
  match s.unstarted i with
  | some reason => .ofResult (.error (.transport server c.firstProtocol reason))
  | none => c.attempt s i server

/-- The attempts with all servers beside each other, in the order in which they end. -/
def attempts (c : Call) (s : Surroundings) : List (Run Message) :=
  s.order.filterMap fun i => c.config.endpoints[i]?.map (c.launch s i)

end Call

end StubResolver
