import StubResolver.Resource.Basic
import StubResolver.Text.Words

/-!
# The text form of resources and records

A record is a line with its name, time, class, type and data in columns. Data that are not decoded
are written as their length and their hexadecimal digits.
-/

namespace StubResolver

namespace Resource

/-! ### Strings of text -/

/-- Whether a string is written in quotes: it is empty, or holds a space or a quote. -/
def needsQuotes (cs : List Char) : Bool := cs.isEmpty || cs.contains ' ' || cs.contains '"'

/-- A character between quotes. -/
def quotedChar (c : Char) : List Char := if c = '\\' ∨ c = '"' then ['\\', c] else [c]

/-- A string, in quotes where it needs them. -/
def stringChars (cs : List Char) : List Char :=
  if needsQuotes cs then '"' :: cs.flatMap quotedChar ++ ['"'] else cs

/-- The strings of a text record with spaces between them. Octets that are no text are
replaced. -/
def stringsText (strings : List Octets) : String :=
  " ".intercalate (strings.map fun s => String.ofList (stringChars (Utf8.decodeLossy s)))

/-! ### Data -/

/-- The fields of the start of a zone. -/
def authorityText (s : Authority) : String :=
  " ".intercalate
    [s.primary.text, String.ofList s.mailbox.nameChars, toString s.serial.toNat,
      toString s.refresh.seconds, toString s.retry.seconds, toString s.expire.seconds,
      toString s.minimum.seconds]

/-- The text form of data. -/
def text : Resource → String
  | a ip => ip.text
  | aaaa ip => ip.text
  | ns server => server.text
  | cname target => target.text
  | mx preference exchange => toString preference.toNat ++ " " ++ exchange.text
  | soa s => authorityText s
  | txt strings => stringsText strings
  | unknown _ data =>
    "\\# " ++ toString data.length ++ (if data.isEmpty then "" else " " ++ Hex.lower data)

instance : ToString Resource := ⟨text⟩

/-- The name of the type of data, or its number where they are not decoded. -/
def typeText (r : Resource) : String :=
  match r.type? with
  | some t => t.text
  | none => "TYPE" ++ toString r.typeCode.toNat

end Resource

namespace Record

/-- The line of a record. -/
def text (r : Record) : String :=
  Text.padRight 20 r.name.text ++ " " ++ Text.padLeft 4 (toString r.ttl.seconds) ++ " "
    ++ Text.padRight 4 r.cls.text ++ " " ++ Text.padRight 6 r.resource.typeText ++ " "
    ++ r.resource.text ++ "\n"

instance : ToString Record := ⟨text⟩

end Record

end StubResolver
