import StubResolver.Address.Ipv6

/-!
# Addresses and endpoints

An endpoint is an address with a port. An IPv6 address stands in brackets in front of the port.
-/

namespace StubResolver

/-- An address of either version. -/
inductive IpAddress where
  | v4 (ip : Ipv4)
  | v6 (ip : Ipv6)
  deriving DecidableEq, Repr

namespace IpAddress

/-- The text form. -/
def text : IpAddress → String
  | .v4 ip => ip.text
  | .v6 ip => ip.text

instance : ToString IpAddress := ⟨text⟩

/-- The address that a whole text writes. -/
def ofChars? (cs : List Char) : Option IpAddress :=
  ((Ipv4.ofChars? cs).map .v4).or ((Ipv6.ofChars? cs).map .v6)

end IpAddress

/-- An address and a port. -/
structure Endpoint where
  ip : IpAddress
  port : UInt16
  deriving DecidableEq, Repr

namespace Endpoint

/-- The text form. -/
def text (e : Endpoint) : String :=
  match e.ip with
  | .v4 ip => ip.text ++ ":" ++ toString e.port.toNat
  | .v6 ip => "[" ++ ip.text ++ "]:" ++ toString e.port.toNat

instance : ToString Endpoint := ⟨text⟩

/-- The endpoint that a whole text writes. -/
def ofChars? (cs : List Char) : Option Endpoint := do
  let port := (cs.reverse.takeWhile (· ≠ ':')).reverse
  let address := cs.take (cs.length - port.length - 1)
  let ip ← match address with
    | '[' :: inner =>
      if inner.getLast? = some ']' then (Ipv6.ofChars? inner.dropLast).map .v6 else none
    | _ => (Ipv4.ofChars? address).map .v4
  match Numeral.ofDigits 65535 port with
  | .ok n => if port.isEmpty then none else some ⟨ip, .ofNat n⟩
  | .error _ => none

end Endpoint

end StubResolver
