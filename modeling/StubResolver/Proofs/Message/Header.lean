import StubResolver.Message.Wire
import StubResolver.Proofs.Wire.Framing
import StubResolver.Proofs.Wire.Outcome

/-!
# Reading headers

The flags of a header and the codes among them are packed into two octets. They are read back from
these octets, each from its own bits.
-/

namespace StubResolver

/-! ### Packed bits -/

lemma testBit_eq_of_shiftRight {n k : Nat} {b : Bool} (h : (n >>> k) % 2 = b.toNat) :
    n.testBit k = b := by
  rw [Nat.testBit_eq_decide_div_mod_eq, ← Nat.shiftRight_eq_div_pow, h]
  cases b <;> rfl

lemma Opcode.toNat_code_lt (o : Opcode) : o.code.toNat < 16 := by cases o <;> decide

lemma ResponseCode.toNat_code_lt (r : ResponseCode) : r.code.toNat < 16 := by
  cases r <;> decide

namespace Header

variable (h : Header)

lemma toNat_firstFlags :
    h.firstFlags.toNat = 128 * h.direction.isResponse.toNat + 8 * h.opcode.code.toNat
      + 4 * h.authoritative.toNat + 2 * h.truncated.toNat + h.recursionDesired.toNat := by
  have := h.direction.isResponse.toNat_lt
  have := h.opcode.toNat_code_lt
  have := h.authoritative.toNat_lt
  have := h.truncated.toNat_lt
  have := h.recursionDesired.toNat_lt
  rw [firstFlags, UInt8.toNat_ofNat']
  exact Nat.mod_eq_of_lt (by omega)

lemma toNat_secondFlags :
    h.secondFlags.toNat = 128 * h.recursionAvailable.toNat + 64 * h.reserved.toNat
      + 32 * h.authenticData.toNat + 16 * h.checkingDisabled.toNat + h.rcode.code.toNat := by
  have := h.recursionAvailable.toNat_lt
  have := h.reserved.toNat_lt
  have := h.authenticData.toNat_lt
  have := h.checkingDisabled.toNat_lt
  have := h.rcode.toNat_code_lt
  rw [secondFlags, UInt8.toNat_ofNat']
  exact Nat.mod_eq_of_lt (by omega)

/-- What the first octet of flags holds. -/
lemma firstFlags_bits :
    h.firstFlags.toNat / 8 % 16 = h.opcode.code.toNat
      ∧ h.firstFlags.toNat.testBit 7 = h.direction.isResponse
      ∧ h.firstFlags.toNat.testBit 2 = h.authoritative
      ∧ h.firstFlags.toNat.testBit 1 = h.truncated
      ∧ h.firstFlags.toNat.testBit 0 = h.recursionDesired := by
  have := h.direction.isResponse.toNat_lt
  have := h.opcode.toNat_code_lt
  have := h.authoritative.toNat_lt
  have := h.truncated.toNat_lt
  have := h.recursionDesired.toNat_lt
  rw [toNat_firstFlags]
  refine ⟨by omega, ?_, ?_, ?_, ?_⟩ <;> exact testBit_eq_of_shiftRight (by omega)

/-- What the second octet of flags holds. -/
lemma secondFlags_bits :
    h.secondFlags.toNat % 16 = h.rcode.code.toNat
      ∧ h.secondFlags.toNat.testBit 7 = h.recursionAvailable
      ∧ h.secondFlags.toNat.testBit 6 = h.reserved
      ∧ h.secondFlags.toNat.testBit 5 = h.authenticData
      ∧ h.secondFlags.toNat.testBit 4 = h.checkingDisabled := by
  have := h.recursionAvailable.toNat_lt
  have := h.reserved.toNat_lt
  have := h.authenticData.toNat_lt
  have := h.checkingDisabled.toNat_lt
  have := h.rcode.toNat_code_lt
  rw [toNat_secondFlags]
  refine ⟨by omega, ?_, ?_, ?_, ?_⟩ <;> exact testBit_eq_of_shiftRight (by omega)

/-! ### The header -/

lemma reads_opcode (o : Opcode) : (decoder.opcode o.code.toNat).Reads [] o := by
  rw [decoder.opcode, Opcode.ofCode?_code]
  exact Decoder.reads_pure o

lemma reads_responseCode (r : ResponseCode) :
    (decoder.responseCode r.code.toNat).Reads [] r := by
  rw [decoder.responseCode, ResponseCode.ofCode?_code]
  exact Decoder.reads_pure r

/-- The flags are read bit by bit. -/
lemma reads_flags {id : UInt16} {first second : UInt8} {o : Opcode} {r : ResponseCode}
    (ho : first.toNat / 8 % 16 = o.code.toNat) (hr : second.toNat % 16 = r.code.toNat) :
    decoder.Reads (Octets.ofUInt16 id ++ [first, second])
      { id := id
        direction := .ofBool (first.toNat.testBit 7)
        opcode := o
        authoritative := first.toNat.testBit 2
        truncated := first.toNat.testBit 1
        recursionDesired := first.toNat.testBit 0
        recursionAvailable := second.toNat.testBit 7
        reserved := second.toNat.testBit 6
        authenticData := second.toNat.testBit 5
        checkingDisabled := second.toNat.testBit 4
        rcode := r } := by
  have hopcode : (decoder.opcode (first.toNat / 8 % 16)).Reads [] o := ho ▸ reads_opcode o
  have hrcode : (decoder.responseCode (second.toNat % 16)).Reads [] r :=
    hr ▸ reads_responseCode r
  exact (Decoder.reads_uint16 id).bind ((Decoder.reads_octet first).bind
    (hopcode.bind ((Decoder.reads_octet second).bind (hrcode.bind_pure _))))

/-- A header is read back from its encoding. -/
lemma reads_encode : decoder.Reads h.encode h := by
  obtain ⟨hopcode, hdirection, hauthoritative, htruncated, hdesired⟩ := h.firstFlags_bits
  obtain ⟨hrcode, havailable, hreserved, hauthentic, hchecking⟩ := h.secondFlags_bits
  have hread : decoder.Reads h.encode _ := reads_flags hopcode hrcode
  rwa [hdirection, hauthoritative, htruncated, hdesired, havailable, hreserved, hauthentic,
    hchecking, Direction.ofBool_isResponse] at hread

lemma position_of_opcode {n : Nat} {o : Opcode} {p : Packet} {i j : Nat}
    (ho : decoder.opcode n p i = .ok (o, j)) : j = i := by
  unfold decoder.opcode at ho
  cases hcode : Opcode.ofCode? n <;> rw [hcode] at ho <;> cases ho
  rfl

lemma position_of_responseCode {n : Nat} {r : ResponseCode} {p : Packet} {i j : Nat}
    (hr : decoder.responseCode n p i = .ok (r, j)) : j = i := by
  unfold decoder.responseCode at hr
  cases hcode : ResponseCode.ofCode? n <;> rw [hcode] at hr <;> cases hr
  rfl

/-- A header that was read was cut off exactly if its first octet of flags says so. -/
lemma truncated_of_decoder {header : Header} {p : Packet} {i j : Nat}
    (hread : decoder p i = .ok (header, j)) :
    j = i + 4 ∧ ∃ first, p[i + 2]? = some first
      ∧ header.truncated = first.toNat.testBit 1 := by
  obtain ⟨id, i₁, hid, h₁⟩ := Decoder.bind_eq_ok hread
  obtain ⟨first, i₂, hfirst, h₂⟩ := Decoder.bind_eq_ok h₁
  obtain ⟨o, i₃, ho, h₃⟩ := Decoder.bind_eq_ok h₂
  obtain ⟨second, i₄, hsecond, h₄⟩ := Decoder.bind_eq_ok h₃
  obtain ⟨r, i₅, hr, h₅⟩ := Decoder.bind_eq_ok h₄
  obtain ⟨rfl, -⟩ := Decoder.uint16_eq_ok hid
  obtain ⟨hb, rfl⟩ := Decoder.octet_eq_ok hfirst
  obtain rfl := position_of_opcode ho
  obtain ⟨-, rfl⟩ := Decoder.octet_eq_ok hsecond
  obtain rfl := position_of_responseCode hr
  cases h₅
  exact ⟨rfl, first, hb, rfl⟩

lemma throws_decoder : decoder.Throws Error.IsMalformed := by
  refine (Decoder.throws_uint16 trivial).bind fun id => ?_
  refine (Decoder.throws_octet trivial).bind fun first => Decoder.Throws.bind ?_ fun o => ?_
  · unfold decoder.opcode
    split
    · exact Decoder.throws_pure _
    · exact Decoder.throws_fail trivial
  refine (Decoder.throws_octet trivial).bind fun second => Decoder.Throws.bind_pure ?_ _
  unfold decoder.responseCode
  split
  · exact Decoder.throws_pure _
  · exact Decoder.throws_fail trivial

end Header

end StubResolver
