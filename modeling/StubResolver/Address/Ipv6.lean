import StubResolver.Address.Ipv4
import StubResolver.Text.Hex
import StubResolver.Wire.Octets

/-!
# IPv6 addresses

The text form is eight groups of at most four hexadecimal digits with colons between them. Two
colons stand once for the groups of zeros that are left out, and the last two groups may be
written as an IPv4 address. Addresses are written in lower case, the first longest run of at least
two groups of zeros is left out, and only the mapped addresses show an IPv4 address.
-/

namespace StubResolver

/-- An address of sixteen octets. -/
structure Ipv6 where
  octets : Vector UInt8 16
  deriving DecidableEq, Repr

namespace Ipv6

/-- The numbers that pairs of octets stand for. -/
def pairUp : List UInt8 → List UInt16
  | a :: b :: rest => Octets.toUInt16 a b :: pairUp rest
  | _ => []

/-- The eight groups of an address. -/
def groups (ip : Ipv6) : List UInt16 := pairUp ip.octets.toList

/-- The address of eight groups. -/
def ofGroups? (groups : List UInt16) : Option Ipv6 :=
  let octets := groups.flatMap Octets.ofUInt16
  if h : octets.toArray.size = 16 then some ⟨⟨octets.toArray, h⟩⟩ else none

/-! ### Writing -/

/-- The digits of a group, without leading zeros. -/
def groupText (n : UInt16) : String := String.ofList (Nat.toDigits 16 n.toNat)

/-- Groups with colons between them. -/
def groupsText (groups : List UInt16) : String := ":".intercalate (groups.map groupText)

/-- The number of zeros that groups begin with, from an index on. -/
def zerosAt (groups : List UInt16) (i : Nat) : Nat :=
  ((groups.drop i).takeWhile (· == 0)).length

/-- The first index at which the most groups of zeros follow. -/
def longestZeros (groups : List UInt16) : Nat :=
  (List.range groups.length).foldl
    (fun best i => if zerosAt groups best < zerosAt groups i then i else best) 0

/-- The IPv4 address that an address is mapped from. -/
def mapped? (ip : Ipv6) : Option Ipv4 :=
  match ip.octets.toList with
  | [0, 0, 0, 0, 0, 0, 0, 0, 0, 0, 0xFF, 0xFF, a, b, c, d] => some (.ofOctets a b c d)
  | _ => none

/-- The text form. -/
def text (ip : Ipv6) : String :=
  match ip.mapped? with
  | some ip => "::ffff:" ++ ip.text
  | none =>
    let groups := ip.groups
    let start := longestZeros groups
    let count := zerosAt groups start
    if 1 < count then
      groupsText (groups.take start) ++ "::" ++ groupsText (groups.drop (start + count))
    else groupsText groups

instance : ToString Ipv6 := ⟨text⟩

/-! ### Reading -/

/-- Reads one group from the front of a text. -/
def readGroup (cs : List Char) : Option (UInt16 × List Char) :=
  let digits := cs.takeWhile Hex.isDigit
  if digits.length = 0 ∨ 4 < digits.length then none
  else (Hex.toNat? digits).map fun n => (.ofNat n, cs.dropWhile Hex.isDigit)

/-- Reads the colon in front of every group but the first. -/
def readColon (isFirst : Bool) (cs : List Char) : Option (List Char) :=
  if isFirst then some cs
  else match cs with
    | ':' :: cs => some cs
    | _ => none

/-- Groups that were read from the front of a text. -/
structure Run where
  groups : List UInt16
  /-- Whether the last two groups were written as an IPv4 address. -/
  endsInIpv4 : Bool
  rest : List Char

/-- Reads as many groups as there are, at most `room`. Where there is room for two, they may be
written as an IPv4 address, which ends the run. -/
def readGroups : (room : Nat) → (isFirst : Bool) → List Char → Run
  | 0, _, cs => ⟨[], false, cs⟩
  | room + 1, isFirst, cs =>
    match if 0 < room then (readColon isFirst cs).bind Ipv4.read else none with
    | some (ip, rest) => ⟨pairUp ip.octets.toList, true, rest⟩
    | none =>
      match (readColon isFirst cs).bind readGroup with
      | some (group, rest) =>
        let run := readGroups room false rest
        { run with groups := group :: run.groups }
      | none => ⟨[], false, cs⟩

/-- The address that a whole text writes. At least one group is left out between two colons. -/
def ofChars? (cs : List Char) : Option Ipv6 :=
  let front := readGroups 8 true cs
  if front.groups.length = 8 then
    if front.rest.isEmpty then ofGroups? front.groups else none
  else if front.endsInIpv4 then none
  else match front.rest with
    | ':' :: ':' :: cs =>
      let back := readGroups (7 - front.groups.length) true cs
      let zeros := List.replicate (8 - front.groups.length - back.groups.length) 0
      if back.rest.isEmpty then ofGroups? (front.groups ++ zeros ++ back.groups) else none
    | _ => none

end Ipv6

end StubResolver
