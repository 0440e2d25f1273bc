import StubResolver.Address.Endpoint
import StubResolver.Duration
import StubResolver.Name.Basic

/-!
# Configuration of a resolver

Which servers are asked, by which protocols, and how.
-/

namespace StubResolver

/-- How a resolver talks to its servers. -/
structure Config where
  /-- The servers, in order. -/
  servers : List IpAddress
  /-- Queries may be sent by UDP. -/
  udp : Bool
  /-- Queries may be sent by TCP: large ones, and those that UDP did not answer in full. -/
  tcp : Bool
  port : UInt16
  /-- The time for each exchange. -/
  timeout : Duration
  /-- The case of the letters of each name that is sent is drawn at random. -/
  randomCase : Bool
  /-- The suffixes that are tried, in order, for names of one label. -/
  search : List Name
  deriving DecidableEq, Repr

namespace Config

/-- The servers that are asked where no others are known. -/
def publicServers : List IpAddress :=
  [.v4 (.ofOctets 8 8 8 8), .v4 (.ofOctets 8 8 4 4),
    .v6 ⟨#v[0x20, 0x01, 0x48, 0x60, 0x48, 0x60, 0, 0, 0, 0, 0, 0, 0, 0, 0x88, 0x88]⟩,
    .v6 ⟨#v[0x20, 0x01, 0x48, 0x60, 0x48, 0x60, 0, 0, 0, 0, 0, 0, 0, 0, 0x88, 0x44]⟩]

/-- The public servers, by both protocols. -/
def standard : Config where
  servers := publicServers
  udp := true
  tcp := true
  port := 53
  timeout := { seconds := 5 }
  randomCase := false
  search := []

/-- No exchange is given less time than this. -/
def minTimeout : Duration := .ofMilliseconds 100

/-- The time that each exchange is given. -/
def effectiveTimeout (c : Config) : Duration := max c.timeout minTimeout

/-- The endpoints of the servers, in order. -/
def endpoints (c : Config) : List Endpoint := c.servers.map (⟨·, c.port⟩)

end Config

end StubResolver
