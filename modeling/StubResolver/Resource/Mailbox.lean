import StubResolver.Error

/-!
# Mailboxes

A mailbox is written as a name whose first label is the local part. A name whose first label holds
an at sign is read as if the label ended there.
-/

namespace StubResolver

/-- A mail address. -/
structure Mailbox where
  localPart : String
  domain : Name
  deriving DecidableEq, Repr

namespace Mailbox

/-- The octet of the at sign. -/
def atSign : UInt8 := 0x40

/-- The mailbox that a name stands for. A name without a first label of text has no local part.
Octets that are no text are replaced. -/
def ofName (n : Name) : Mailbox :=
  match n.labels with
  | .text octets :: rest =>
    let front := octets.takeWhile (· ≠ atSign)
    let back := (octets.dropWhile (· ≠ atSign)).drop 1
    { localPart := String.ofList (Utf8.decodeLossy front)
      domain := ⟨if back.isEmpty then rest else .text back :: rest⟩ }
  | _ => ⟨"", n⟩

/-- The octets of the local part. -/
def localOctets (m : Mailbox) : Octets := Utf8.encode m.localPart.toList

/-- The name that stands for a mailbox, if the local part fits into a label. -/
def toName (m : Mailbox) : Except Error Name :=
  if m.localPart.isEmpty then .ok m.domain
  else if Label.maxLength < m.localOctets.length then
    .error (.format (.localPartTooLong m.localOctets.length))
  else .ok ⟨.text m.localOctets :: m.domain.labels⟩

/-- The mailbox with its domain in small letters. -/
def fold (m : Mailbox) : Mailbox := { m with domain := m.domain.fold }

/-- The text form: the local part and the domain without its last point, with an at sign between
them. -/
def text (m : Mailbox) : String :=
  m.localPart ++ "@" ++ String.ofList m.domain.chars.dropLast

instance : ToString Mailbox := ⟨text⟩

/-- The text form of the name that stands for a mailbox, even if the local part is too long. -/
def nameChars (m : Mailbox) : List Char :=
  if m.localPart.isEmpty then m.domain.chars
  else
    (Label.text m.localOctets).chars ++ '.' :: (if m.domain.isRoot then [] else m.domain.chars)

end Mailbox

end StubResolver
