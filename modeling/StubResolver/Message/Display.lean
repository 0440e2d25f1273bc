import StubResolver.Message.Basic
import StubResolver.Resource.Display
import StubResolver.Text.Calendar

/-!
# The text form of messages

A message is shown as lines: its header, its flags and the sizes of its sections, the questions,
each section that has records, and how it was received.
-/

namespace StubResolver

namespace Header

/-- The names of the flags that are set, each behind a space. -/
def flagsText (h : Header) : String :=
  String.join
    ([(h.direction.isResponse, " qr"), (h.authoritative, " aa"), (h.truncated, " tc"),
      (h.recursionDesired, " rd"), (h.recursionAvailable, " ra"), (h.authenticData, " ad"),
      (h.checkingDisabled, " cd")].map fun flag => if flag.1 then flag.2 else "")

end Header

/-- The line of a question. -/
def Question.text (q : Question) : String :=
  "; " ++ Text.padRight 18 q.name.text ++ " " ++ Text.padRight 4 q.cls.text ++ " " ++ q.type.text
    ++ "\n"

instance : ToString Question := ⟨Question.text⟩

namespace Provenance

/-- The lines that say how a message was received. -/
def text (s : Provenance) : String :=
  ";; Query time: " ++ toString s.duration.inMilliseconds ++ " msec\n"
    ++ ";; SERVER: " ++ s.server.text ++ " (" ++ s.protocol.text ++ ")\n"
    ++ ";; WHEN: " ++ Calendar.text s.start ++ "\n"
    ++ ";; MSG SIZE sent: " ++ toString s.requestSize ++ " rcvd: " ++ toString s.responseSize
    ++ "\n"

instance : ToString Provenance := ⟨text⟩

end Provenance

namespace Message

/-- The lines of the header. -/
def headerText (m : Message) : String :=
  ";; ->>HEADER<<- opcode: " ++ m.header.opcode.text ++ ", status: " ++ m.header.rcode.text
    ++ ", id: " ++ toString m.header.id.toNat ++ "\n"
    ++ ";; flags:" ++ m.header.flagsText ++ "; QUERY: " ++ toString m.questions.length
    ++ ", ANSWER: " ++ toString m.answers.length
    ++ ", AUTHORITY: " ++ toString m.authorities.length
    ++ ", ADDITIONAL: " ++ toString m.additionals.length ++ "\n\n"

/-- The lines of a section with records; nothing for one without. -/
def sectionText (title : String) (records : List Record) : String :=
  if records.isEmpty then ""
  else ";; " ++ title ++ " SECTION:\n" ++ String.join (records.map Record.text) ++ "\n"

/-- The text form of a message. -/
def text (m : Message) : String :=
  m.headerText ++ ";; QUESTION SECTION:\n" ++ String.join (m.questions.map Question.text) ++ "\n"
    ++ sectionText "ANSWER" m.answers ++ sectionText "AUTHORITY" m.authorities
    ++ sectionText "ADDITIONAL" m.additionals
    ++ (match m.provenance with
      | some s => s.text
      | none => "")

instance : ToString Message := ⟨text⟩

end Message

end StubResolver
