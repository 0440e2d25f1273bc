import StubResolver.Address.Endpoint
import StubResolver.Message.Question
import StubResolver.Text.Utf8

/-!
# Errors

Everything that can go wrong while names, records and messages are read or written, and while a
server is asked. Each error holds its cause, and `Error.message` is the only place with the
wording.
-/

namespace StubResolver

/-! ### Names -/

/-- What can be wrong with the text of a name. -/
inductive NameFault where
  /-- Two points follow each other, or a point comes first. -/
  | emptyLabel
  /-- The octets of an internationalised label are not UTF-8. -/
  | notUtf8 (fault : Utf8.Fault)
  /-- A label has no ASCII form. -/
  | notIdna (label : String) (faults : List Idna.Fault)
  /-- The ASCII form of a label has more than one label. -/
  | severalLabels (label : String)
  /-- A label has more octets than a label can have. -/
  | labelTooLong
  /-- Nothing follows a backslash. -/
  | unfinishedEscape
  /-- A backslash and a digit are not followed by two more digits. -/
  | shortEscape
  /-- The three digits of an escape are above 255. -/
  | largeEscape
  /-- The bracket of a bit label is not closed. -/
  | openBits
  /-- No point follows a bit label. -/
  | textAfterBits
  /-- The body of a bit label does not begin with an x. -/
  | bitsNotHex
  /-- The digits of a bit label do not write octets. -/
  | badBits (digits : String)
  /-- The number of bits is not a numeral. -/
  | badBitCount (fault : Numeral.Fault)
  /-- The number of bits does not fit the number of octets. -/
  | bitCountMismatch (octets count : Nat)
  deriving DecidableEq, Repr

/-- What a reader is told about a fault in the text of a name. -/
def NameFault.message (name : String) : NameFault → String
  | emptyLabel => "'" ++ name ++ "' is not a legal name (empty label)"
  | notUtf8 fault => "invalid label in '" ++ name ++ "': " ++ fault.message
  | notIdna label faults =>
    "label '" ++ label ++ "' is not valid IDNA: " ++ Idna.Fault.listText faults
  | severalLabels label => "label '" ++ label ++ "' maps to more than one label"
  | labelTooLong =>
    "'" ++ name ++ "' is not a legal name (label longer than " ++ toString Label.maxLength ++ ")"
  | unfinishedEscape => "'" ++ name ++ "' ends with an incomplete escape"
  | shortEscape => "'" ++ name ++ "' has an invalid \\DDD escape"
  | largeEscape => "'" ++ name ++ "' has an escape larger than 255"
  | openBits => "'" ++ name ++ "' has an unterminated binary label"
  | textAfterBits => "'" ++ name ++ "' has text after a binary label"
  | bitsNotHex => "'" ++ name ++ "' has a binary label that is not hex"
  | badBits digits => "'" ++ name ++ "' has an invalid binary label '" ++ digits ++ "'"
  | badBitCount fault => "'" ++ name ++ "' has an invalid bit count: " ++ fault.message
  | bitCountMismatch octets count =>
    "'" ++ name ++ "' has a binary label of " ++ toString octets ++ " bytes with "
      ++ toString count ++ " bits"

/-! ### Messages -/

/-- What can be wrong with the form of a name, a record or a message. -/
inductive FormatFault where
  /-- The text of a name is no name. -/
  | name (text : String) (fault : NameFault)
  /-- The octets end too early. -/
  | shortInput
  /-- A compression pointer does not point backwards. -/
  | forwardPointer (offset target : Nat)
  /-- A name has too many compression pointers. -/
  | tooManyPointers
  /-- A question has an unknown type. -/
  | unknownType (code : UInt16)
  /-- A question or record has an unknown class. -/
  | unknownClass (code : UInt16)
  /-- A header has an unknown opcode. -/
  | unknownOpcode (code : Nat)
  /-- A header has an unknown response code. -/
  | unknownResponseCode (code : Nat)
  /-- An address record has the wrong length. -/
  | addressLength (type : RecordType) (length expected : Nat)
  /-- The data of a record end before or after its length says. -/
  | dataLength (type : RecordType) (used length : Nat)
  /-- Octets follow the last record. -/
  | leftOver (count : Nat)
  /-- A section has too many entries. -/
  | tooManyEntries (count : Nat)
  /-- A string of a text record is too long. -/
  | stringTooLong (length : Nat)
  /-- The local part of a mailbox does not fit into a label. -/
  | localPartTooLong (length : Nat)
  /-- The data of a record are too long. -/
  | dataTooLong (length : Nat)
  deriving DecidableEq, Repr

/-- The greatest number of compression pointers in a name. -/
def maxPointers : Nat := 128

/-- The greatest length of a string in a text record. -/
def maxStringLength : Nat := 255

/-- What a reader is told about a fault in the form of a name, a record or a message. -/
def FormatFault.message : FormatFault → String
  | name text fault => fault.message text
  | shortInput => "failed to fill whole buffer"
  | forwardPointer offset target =>
    "compression pointer at offset " ++ toString offset ++ " does not point backwards (to "
      ++ toString target ++ ")"
  | tooManyPointers => "more than " ++ toString maxPointers ++ " compression pointers"
  | unknownType code => "unsupported question Type(" ++ toString code.toNat ++ ")"
  | unknownClass code => "invalid Class(" ++ toString code.toNat ++ ")"
  | unknownOpcode code => "invalid Opcode(" ++ toString code ++ ")"
  | unknownResponseCode code => "invalid RCode(" ++ toString code ++ ")"
  | addressLength type length expected =>
    "invalid " ++ type.text ++ " record length (" ++ toString length ++ ") expected "
      ++ toString expected
  | dataLength type used length =>
    type.text ++ " record used " ++ toString used ++ " bytes but its length is " ++ toString length
  | leftOver count => "finished parsing with " ++ toString count ++ " bytes left over"
  | tooManyEntries count => "too many entries (" ++ toString count ++ ") for one section"
  | stringTooLong length =>
    "TXT string of " ++ toString length ++ " bytes is longer than " ++ toString maxStringLength
  | localPartTooLong length =>
    "mailbox local part of " ++ toString length ++ " bytes is longer than "
      ++ toString Label.maxLength
  | dataTooLong length => "record data of " ++ toString length ++ " bytes is too long"

/-! ### Exchanges -/

/-- What a caller can get wrong. -/
inductive ArgumentFault where
  | noServers
  | noProtocol
  | noName
  deriving DecidableEq, Repr

/-- What a caller is told about an argument. -/
def ArgumentFault.message : ArgumentFault → String
  | noServers => "no servers configured"
  | noProtocol => "both UDP and TCP are disabled"
  | noName => "no name to resolve"

/-- Why a message does not answer a query. -/
inductive Mismatch where
  /-- The identifier is another. -/
  | id (got expected : UInt16)
  /-- The message is a query itself. -/
  | notResponse
  /-- The message has another question than the one that was asked. -/
  | question (asked : Question)
  deriving DecidableEq, Repr

/-- What a caller is told about a message that does not answer a query. -/
def Mismatch.message (server : Endpoint) : Mismatch → String
  | id got expected =>
    server.text ++ " responded with id " ++ toString got.toNat ++ ", expected "
      ++ toString expected.toNat
  | notResponse => server.text ++ " sent a query, not a response"
  | question asked =>
    server.text ++ " responded to a different question than " ++ asked.name.text ++ " "
      ++ asked.cls.text ++ " " ++ asked.type.text

/-- What can go wrong. -/
inductive Error where
  /-- The caller supplied something unusable. -/
  | invalidArgument (fault : ArgumentFault)
  /-- A name, a record or a message is malformed. -/
  | format (fault : FormatFault)
  /-- A label has a type that is neither text nor bits. -/
  | unsupportedLabelType (mark : UInt8)
  /-- The data of a record have a type that is not decoded. -/
  | unsupportedRecordType (code : UInt16)
  /-- The data of a record do not fit into what remains of the message. -/
  | truncatedRecord (length remaining : Nat)
  /-- A response does not belong to the query it was received for. -/
  | validation (server : Endpoint) (mismatch : Mismatch)
  /-- A server answered with a status that was not accepted. -/
  | status (code : ResponseCode)
  /-- A server could not be reached. -/
  | transport (server : Endpoint) (protocol : Protocol) (reason : String)
  /-- A query is larger than every allowed transport takes. -/
  | capacity (size limit : Nat)
  /-- Every attempt failed. -/
  | aggregate (causes : List Error)
  deriving Repr

namespace Error

/-- Puts texts behind each other, a colon in front of the first and semicolons between them. -/
def listText : List String → String
  | [] => ""
  | first :: rest => ": " ++ first ++ String.join (rest.map ("; " ++ ·))

/-- What a caller is told about an error. -/
def message : Error → String
  | invalidArgument fault => "invalid argument: " ++ fault.message
  | format fault => "format error: " ++ fault.message
  | unsupportedLabelType mark =>
    "unsupported label type 0x" ++ String.ofList (Hex.upperOctet mark)
  | unsupportedRecordType code => "unsupported record type " ++ toString code.toNat
  | truncatedRecord length remaining =>
    "record data length " ++ toString length ++ " exceeds the " ++ toString remaining
      ++ " bytes remaining"
  | validation server mismatch => "invalid response: " ++ mismatch.message server
  | status code => "server responded with " ++ code.text
  | transport server protocol reason =>
    protocol.text ++ " exchange with " ++ server.text ++ " failed: " ++ reason
  | capacity size limit =>
    "query is " ++ toString size ++ " bytes, larger than the " ++ toString limit
      ++ " byte UDP limit, and TCP is disabled"
  | aggregate causes =>
    "all " ++ toString causes.length ++ " attempts failed" ++ listText (causes.map message)

instance : ToString Error := ⟨message⟩

/-- Whether a server could not be reached. -/
def isTransport : Error → Bool
  | transport .. => true
  | _ => false

/-- Whether an error collects others. -/
def isAggregate : Error → Bool
  | aggregate _ => true
  | _ => false

end Error

end StubResolver
