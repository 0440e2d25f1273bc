import Mathlib.Tactic.Common
import StubResolver.Proofs.Message.Wire
import StubResolver.Proofs.Name.Walk

/-!
# What a message that was read holds

The sections of a message that was read have as many entries as its header says, and all names,
times, strings, data and mailboxes in them are such as the wire can carry, whatever octets the
message was read from.
-/

namespace StubResolver

lemma numberAt?_of_uint16 {octets : Octets} {i j : Nat} {n : UInt16}
    (h : Decoder.uint16 octets.toArray i = .ok (n, j)) : octets.numberAt? i = some n.toNat := by
  obtain ⟨-, high, low, hhigh, hlow, rfl⟩ := Decoder.uint16_eq_ok h
  rw [List.getElem?_toArray] at hhigh hlow
  have hn : (Octets.toUInt16 high low).toNat = 256 * high.toNat + low.toNat := by
    have := high.toNat_lt
    have := low.toNat_lt
    rw [Octets.toUInt16, UInt16.toNat_ofNat']
    omega
  simp [Octets.numberAt?, hhigh, hlow, hn]

namespace Resource

/-- The names among data. -/
def names : Resource → List Name
  | ns server => [server]
  | cname target => [target]
  | mx _ exchange => [exchange]
  | soa s => [s.primary, s.mailbox.domain]
  | _ => []

/-- The times among data. -/
def times : Resource → List Duration
  | soa s => [s.refresh, s.retry, s.expire, s.minimum]
  | _ => []

variable {r : Resource}

lemma forall_mem_names (h : r.IsValid) : ∀ n ∈ r.names, n.IsValid := by
  cases r <;> simp_all [names, IsValid]

lemma forall_mem_times (h : r.clamp = r) : ∀ d ∈ r.times, d.clamp = d := by
  cases r with
  | soa s =>
    simp only [clamp, soa.injEq] at h
    simp only [times, List.forall_mem_cons]
    exact ⟨congrArg Authority.refresh h, congrArg Authority.retry h, congrArg Authority.expire h,
      congrArg Authority.minimum h, by simp⟩
  | _ => simp [times]

end Resource

namespace Message

variable {m : Message} {octets : Octets}

/-- The names in a message. -/
def names (m : Message) : List Name :=
  m.questions.map (·.name) ++ m.records.flatMap fun r => r.name :: r.resource.names

/-- The times in a message. -/
def times (m : Message) : List Duration :=
  m.records.flatMap fun r => r.ttl :: r.resource.times

/-- The header that octets begin with counts the entries of a message, and what the message holds
is such as the wire can carry. -/
structure IsWellFormed (octets : Octets) (m : Message) : Prop where
  counts_eq : [4, 6, 8, 10].map octets.numberAt? = m.sectionSizes.map some
  names_isValid : ∀ n ∈ m.names, ∀ l ∈ n.labels, l.IsValid
  times_le : ∀ d ∈ m.times, d.nanoseconds = .zero ∧ d.seconds ≤ maxSeconds
  strings_length_le : ∀ r ∈ m.records, ∀ strings, r.resource = .txt strings →
    ∀ s ∈ strings, s.length ≤ maxStringLength
  unknown_code_ne : ∀ r ∈ m.records, ∀ code data, r.resource = .unknown code data →
    ∀ t : RecordType, t.code ≠ code
  unknown_length_le : ∀ r ∈ m.records, ∀ code data, r.resource = .unknown code data →
    data.length ≤ Record.maxDataLength
  atSign_notMem : ∀ r ∈ m.records, ∀ s, r.resource = .soa s → '@' ∉ s.mailbox.localPart.toList
  provenance_eq : m.provenance = none

lemma counts_of_decode (h : decode octets = .ok m) :
    [4, 6, 8, 10].map octets.numberAt? = m.sectionSizes.map some := by
  obtain ⟨n₁, n₂, n₃, n₄, -, hn₁, hn₂, hn₃, hn₄, hsizes⟩ := parts_of_decode h
  simp [hsizes, numberAt?_of_uint16 hn₁, numberAt?_of_uint16 hn₂, numberAt?_of_uint16 hn₃,
    numberAt?_of_uint16 hn₄]

lemma isValid_of_mem_names (hm : m.IsRead) : ∀ n ∈ m.names, n.IsValid := by
  simp only [names, List.forall_mem_append, List.forall_mem_map, List.mem_flatMap]
  refine ⟨hm.questions_isValid, ?_⟩
  rintro n ⟨r, hr, hn⟩
  have hread := hm.records_isRead r hr
  exact List.forall_mem_cons.mpr
    ⟨hread.name_isValid, Resource.forall_mem_names hread.resource_isRead.isValid⟩ n hn

lemma clamp_of_mem_times (hm : m.IsRead) : ∀ d ∈ m.times, d.clamp = d := by
  simp only [times, List.mem_flatMap]
  rintro d ⟨r, hr, hd⟩
  have hread := hm.records_isRead r hr
  have hall : ∀ d ∈ r.ttl :: r.resource.times, d.clamp = d := List.forall_mem_cons.mpr
    ⟨hread.ttl_clamp_eq, Resource.forall_mem_times hread.resource_isRead.clamp_eq⟩
  exact hall d hd

/-- Every message that is read is well-formed, whatever octets it is read from. -/
theorem isWellFormed_of_decode (h : decode octets = .ok m) : IsWellFormed octets m := by
  have hm := isRead_of_decode h
  have hresource {r : Record} (hr : r ∈ m.records) := (hm.records_isRead r hr).resource_isRead
  refine ⟨counts_of_decode h, isValid_of_mem_names hm, ?_, ?_, ?_, ?_, ?_, hm.provenance_eq⟩
  · intro d hd
    exact (Duration.clamp_eq_self_iff.mp (clamp_of_mem_times hm d hd)).symm
  · intro r hr strings heq
    have hvalid := (hresource hr).isValid
    rw [heq] at hvalid
    exact hvalid
  · intro r hr code data heq t
    have hvalid := (hresource hr).isValid
    rw [heq] at hvalid
    exact hvalid t (by cases t <;> decide)
  · intro r hr code data heq
    exact (hresource hr).length_le code data heq
  · intro r hr s heq
    exact (hresource hr).atSign_notMem s.mailbox (by rw [heq]; rfl)

/-- A message with compressed names, a label of bits, times below zero, an at sign in the name of
a mailbox, and data that are not decoded. -/
def crowdedOctets : Octets :=
  [0, 0, 0x80, 0, 0, 1, 0, 1, 0, 1, 0, 1, 0x41, 3, 0xFF, 0, 0, 1, 0, 1]
    ++ [0xC0, 12, 0, 6, 0, 1, 0xFF, 0xFF, 0xFF, 0xFF, 0, 28, 0xC0, 12, 3, 0x61, 0x40, 0x62, 0xC0,
      12, 0, 0, 0, 1, 0x80, 0, 0, 0, 0x7F, 0xFF, 0xFF, 0xFF, 0, 0, 0, 0, 0, 0, 0, 9]
    ++ [0xC0, 12, 0, 16, 0, 1, 0, 0, 0, 60, 0, 3, 1, 0xFF, 0]
    ++ [0, 0, 41, 0, 1, 0, 0, 0, 0, 0, 2, 1, 2]

/-- What these octets stand for. -/
def crowded : Message where
  header := { direction := .response }
  questions := [{ name := ⟨[.bits [0xFF] 3]⟩ }]
  answers :=
    [{ name := ⟨[.bits [0xFF] 3]⟩
       resource := .soa ⟨⟨[.bits [0xFF] 3]⟩, ⟨"a", ⟨[.text [0x62], .bits [0xFF] 3]⟩⟩, 1,
        { seconds := 0 }, { seconds := 0x7FFFFFFF }, { seconds := 0 }, { seconds := 9 }⟩ }]
  authorities :=
    [{ name := ⟨[.bits [0xFF] 3]⟩, ttl := { seconds := 60 }, resource := .txt [[0xFF], []] }]
  additionals := [{ resource := .unknown 41 [1, 2] }]

theorem isWellFormed_of_decode_crowded :
    decode crowdedOctets = .ok crowded ∧ IsWellFormed crowdedOctets crowded := by
  -- The recursion of the walk does not reduce, so that names are read turn by turn instead.
  have hread : (decode crowdedOctets).toOption = some crowded := by
    delta decode decoder Question.decoder Record.decoder Record.decoder.data Resource.decoder
      Resource.content Resource.authority
    rw [Name.decoder_eq_run]
    decide +kernel
  have hcrowded : decode crowdedOctets = .ok crowded := toOption_eq_some_iff.mp hread
  exact ⟨hcrowded, isWellFormed_of_decode hcrowded⟩

end Message

end StubResolver
