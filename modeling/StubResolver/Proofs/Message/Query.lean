import StubResolver.Proofs.Message.Wire
import StubResolver.Proofs.Name.LetterCase

/-!
# Queries as messages

A query is sent by an encoder of its own, which knows the number of octets beforehand. What it sends
is a message like any other, with one question and without records.
-/

namespace StubResolver

namespace Query

/-- The message with the question and the flags of a query, and with nothing else. -/
def message (q : Query) (id : UInt16) : Message where
  header :=
    { id
      direction := .query
      opcode := q.flags.opcode
      authoritative := false
      truncated := false
      recursionDesired := q.flags.recursionDesired
      recursionAvailable := false
      reserved := false
      authenticData := q.flags.authenticData
      checkingDisabled := q.flags.checkingDisabled
      rcode := .noError }
  questions := [q.question]
  answers := []
  authorities := []
  additionals := []
  provenance := none

variable (q : Query) (id : UInt16)

@[simp] lemma length_encode : (q.encode id).length = q.wireLength := by
  simp [encode, wireLength]
  omega

@[simp] lemma wireLength_recase (bits : Nat → Bool) :
    (q.recase bits).wireLength = q.wireLength := by
  simp only [wireLength, recase, withName, Name.wireLength_recase]

lemma asks_question : q.asks q.question = true := by
  simp [asks, question, Name.same]

/-- The flags that a query is sent with are those of its message. -/
lemma encode_header : (q.message id).header.encode = Octets.ofUInt16 id
    ++ [.ofNat (8 * q.flags.opcode.code.toNat + q.flags.recursionDesired.toNat),
      .ofNat (32 * q.flags.authenticData.toNat + 16 * q.flags.checkingDisabled.toNat)] := by
  simp [message, Header.encode, Header.firstFlags, Header.secondFlags, Direction.isResponse,
    ResponseCode.code]

lemma encode_message : (q.message id).encode = .ok (q.encode id) := by
  rw [Message.encode_eq_ok_iff]
  refine ⟨by simp [Message.sectionSizes, message, maxEntries], [], rfl, ?_⟩
  rw [encode_header]
  simp [encode, message, Message.sectionSizes, Question.encode, question, Octets.ofUInt16]

lemma decode_encode_iff : Message.decode (q.encode id) = .ok (q.message id) ↔ q.name.IsValid := by
  constructor
  · intro h
    exact (Message.isRead_of_decode h).questions_isValid q.question (List.mem_singleton_self _)
  · intro hname
    have hvalid : (q.message id).IsValid := by
      constructor
      · simpa [message, question] using hname
      · simp [message, Message.records]
    exact Message.decode_of_encode hvalid (q.encode_message id)

/-- A query is sent as its message is, in as many octets as were foreseen. If the wire can carry its
name, and only then, it is read as its message, which asks what the query does. -/
theorem encode_isMessage :
    (q.encode id).length = q.wireLength
      ∧ (q.message id).encode = .ok (q.encode id)
      ∧ (Message.decode (q.encode id) = .ok (q.message id) ↔ q.name.IsValid)
      ∧ ∃ p, (q.message id).questions = [p] ∧ q.asks p = true :=
  ⟨q.length_encode id, q.encode_message id, q.decode_encode_iff id, q.question, rfl,
    q.asks_question⟩

end Query

end StubResolver
