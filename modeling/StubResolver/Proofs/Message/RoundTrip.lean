import StubResolver.Proofs.Message.Wire
import StubResolver.Proofs.Resource.Writing

/-!
# Round trips of messages

A message that fits the wire is read back from its encoding with its times cut. A message that was
read can be written again and is read back from that encoding, but for two ways in which the
mailbox of a zone is not the name that it was read from: octets that are no text take up more
room in the local part than in the label, and a label that begins with an at sign leaves a domain
without a local part.
-/

namespace StubResolver

namespace Message

variable {m : Message} {octets : Octets} {e : Error}

/-- The mailboxes of the zones that a message tells of. -/
def mailboxes (m : Message) : List Mailbox := m.records.filterMap (·.resource.mailbox?)

/-! ### What is read back -/

lemma forall_mem_mailboxes {P : Mailbox → Prop} :
    (∀ mailbox ∈ m.mailboxes, P mailbox)
      ↔ ∀ r ∈ m.records, ∀ mailbox ∈ r.resource.mailbox?, P mailbox := by
  simp only [mailboxes, List.mem_filterMap]
  constructor
  · intro h r hr mailbox hmailbox
    exact h mailbox ⟨r, hr, hmailbox⟩
  · rintro h mailbox ⟨r, hr, hmailbox⟩
    exact h r hr mailbox hmailbox

lemma reread_eq_clamp (hm : m.provenance = none)
    (h : ∀ mailbox ∈ m.mailboxes, mailbox.reread = mailbox) : m.reread = m.clamp := by
  have hself : { m with provenance := none } = m := by rw [← hm]
  rw [reread, hself, clamp]
  apply mapRecords_congr
  intro r hr
  exact Record.reread_eq_clamp (forall_mem_mailboxes.mp h r hr)

lemma clamp_eq_of_isRead (hm : m.IsRead) : m.clamp = m := by
  apply mapRecords_eq_self
  intro r hr
  exact Record.clamp_eq_of_isRead (hm.records_isRead r hr)

lemma atSign_notMem_of_isRead (hm : m.IsRead) :
    ∀ mailbox ∈ m.mailboxes, '@' ∉ mailbox.localPart.toList := by
  rw [forall_mem_mailboxes]
  intro r hr
  exact (hm.records_isRead r hr).resource_isRead.atSign_notMem

/-- A message that was read is the same after it was written and read once more exactly if its
mailboxes are. -/
lemma same_reread_iff (hm : m.IsRead) :
    m.reread.same m ↔ ∀ mailbox ∈ m.mailboxes, mailbox.reread.fold = mailbox.fold := by
  have hrecords : m.reread.same m ↔ ∀ r ∈ m.records, r.reread.fold = r.fold := by
    simp [same, fold, reread, mapRecords, records, hm.provenance_eq, or_imp, forall_and]
  rw [hrecords, forall_mem_mailboxes]
  apply forall₂_congr
  intro r hr
  exact Record.fold_reread_eq_iff (Record.clamp_eq_of_isRead (hm.records_isRead r hr))

/-- A message that the wire can carry, up to what times lose. -/
structure IsRepresentable (m : Message) : Prop where
  isValid : m.IsValid
  sectionSizes_le : ∀ n ∈ m.sectionSizes, n ≤ maxEntries
  length_le : ∀ r ∈ m.records, ∀ data, r.resource.encode = .ok data →
    data.length ≤ Record.maxDataLength
  isCanonical : ∀ mailbox ∈ m.mailboxes, mailbox.IsCanonical
  provenance_eq : m.provenance = none

/-! ### What can be written -/

/-- The message is written so that it can be read again. -/
def IsRewritten (m : Message) : Prop :=
  ∃ octets, m.encode = .ok octets ∧ ∃ m', decode octets = .ok m'

/-- The message fails to be written because the data of a record are too long. -/
def FailsForData (m : Message) : Prop :=
  ∃ r ∈ m.records, ∃ n, r.resource.HasLongData n ∧ ∃ fault, m.encode = .error (.format fault)
    ∧ fault = .dataTooLong n
    ∧ fault.message = "record data of " ++ toString n ++ " bytes is too long"

/-- No record has a local part that is too long, except behind a record whose data are. -/
def LocalPartsFit (m : Message) : Prop :=
  ∀ before r after n, m.records = before ++ r :: after → r.resource.HasLongLocalPart n →
    ∃ r' ∈ before, ∃ k, r'.resource.HasLongData k

/-- A message that can be counted fails to be written as the first of its records that fails. -/
lemma exists_record_of_encode (hm : m.IsValid) (hsizes : ∀ n ∈ m.sectionSizes, n ≤ maxEntries)
    (h : m.encode = .error e) :
    ∃ before r after, m.records = before ++ r :: after ∧ (∀ x ∈ before, ∃ o, x.encode = .ok o)
      ∧ ((∃ n, r.resource.HasLongLocalPart n ∧ e = .format (.localPartTooLong n))
        ∨ ∃ n, r.resource.HasLongData n ∧ e = .format (.dataTooLong n)) := by
  obtain ⟨before, r, after, hrecords, hbefore, hr⟩ :=
    mapM_eq_error_iff.mp ((encode_eq_error_iff hsizes).mp h)
  have hvalid : r.IsValid := hm.records_isValid r (by simp [hrecords])
  exact ⟨before, r, after, hrecords, hbefore, (Record.encode_eq_error_iff_of_isValid hvalid).mp hr⟩

lemma encode_ok_of_mem (h : m.encode = .ok octets) {r : Record} (hr : r ∈ m.records) :
    ∃ o, r.encode = .ok o := by
  obtain ⟨-, encoded, hencoded, -⟩ := encode_eq_ok_iff.mp h
  exact exists_mapM_eq_ok_iff.mp ⟨encoded, hencoded⟩ r hr

/-- A record with a long local part is not among those that can be written. -/
lemma not_encode_ok {r : Record} {n : Nat} (h : r.resource.HasLongLocalPart n) :
    ¬ ∃ o, r.encode = .ok o := by
  rintro ⟨o, ho⟩
  rw [Record.encode_of_hasLongLocalPart h] at ho
  cases ho

lemma localPartsFit_iff (hm : m.IsValid) (hsizes : ∀ n ∈ m.sectionSizes, n ≤ maxEntries) :
    m.LocalPartsFit ↔ ∀ n, m.encode ≠ .error (.format (.localPartTooLong n)) := by
  constructor
  · intro hfit n h
    obtain ⟨before, r, after, hrecords, hbefore, ⟨k, hk, -⟩ | ⟨k, -, he⟩⟩ :=
      exists_record_of_encode hm hsizes h
    · obtain ⟨r', hr', l, hl⟩ := hfit before r after k hrecords hk
      obtain ⟨o, ho⟩ := hbefore r' hr'
      rw [Record.encode_of_hasLongData hl] at ho
      cases ho
    · cases he
  · intro hne before r after n hrecords hn
    cases h : m.encode with
    | ok octets => exact (not_encode_ok hn (encode_ok_of_mem h (by simp [hrecords]))).elim
    | error e =>
      obtain ⟨before', r', after', hrecords', hbefore', ⟨k, hk, rfl⟩ | ⟨k, hk, rfl⟩⟩ :=
        exists_record_of_encode hm hsizes h
      · exact (hne k h).elim
      · -- All that stand in front of the record that fails can be written, so that this record
        -- stands in front of the one with the long local part.
        rcases eq_or_mem_of_append_eq (hrecords.symm.trans hrecords') with rfl | hmem | hmem
        · exact (hn.not_hasLongData k hk).elim
        · exact (not_encode_ok hn (hbefore' r hmem)).elim
        · exact ⟨r', hmem, k, hk⟩

lemma IsRepresentable.exists_encode (hm : m.IsRepresentable) :
    ∃ octets, m.encode = .ok octets := by
  cases h : m.encode with
  | ok octets => exact ⟨octets, rfl⟩
  | error e =>
    obtain ⟨before, r, after, hrecords, -, ⟨n, hn, -⟩ | ⟨n, hn, -⟩⟩ :=
      exists_record_of_encode hm.isValid hm.sectionSizes_le h
    · obtain ⟨hlong, mailbox, hmailbox, rfl⟩ := hn
      have hcanonical : mailbox.IsCanonical :=
        forall_mem_mailboxes.mp hm.isCanonical r (by simp [hrecords]) mailbox hmailbox
      exact absurd hlong (Nat.not_lt.mpr (Mailbox.length_le_of_isCanonical hcanonical))
    · obtain ⟨hlong, data, hdata, rfl⟩ := hn
      exact absurd hlong (Nat.not_lt.mpr (hm.length_le r (by simp [hrecords]) data hdata))

/-! ### Round trips -/

/-- A message that the wire can carry is written, and is read back with its times cut. -/
theorem decode_encode (hm : m.IsRepresentable) :
    ∃ octets, m.encode = .ok octets ∧ decode octets = .ok m.clamp := by
  obtain ⟨octets, h⟩ := hm.exists_encode
  refine ⟨octets, h, ?_⟩
  rw [decode_of_encode hm.isValid h, reread_eq_clamp hm.provenance_eq]
  intro mailbox hmailbox
  exact Mailbox.reread_of_isCanonical (hm.isCanonical mailbox hmailbox)

/-- A message with labels of either kind, mailboxes with and without local part, data that are not
decoded and a time that is too long. -/
def mixture : Message where
  header := { id := 0xBEEF, direction := .response, opcode := .notify, truncated := true,
              checkingDisabled := true, rcode := .notInZone }
  questions := [{ name := ⟨[.text [0x57, 0x77], .bits (List.replicate 32 0xA5) 256]⟩,
                  type := .soa, cls := .any }]
  answers :=
    [{ name := ⟨[.text [0x41]]⟩, ttl := { seconds := 2147483648, nanoseconds := ⟨7, by decide⟩ },
       resource := .txt [[], [0x20, 0xFF]] },
     { cls := .chaos, resource := .mx 10 ⟨[.text (List.replicate 63 0x5A)]⟩ }]
  authorities :=
    [{ resource := .soa ⟨.root, ⟨"É", ⟨[.text [0x40]]⟩⟩, 7,
        { seconds := 1, nanoseconds := ⟨1, by decide⟩ }, { seconds := 4294967296 },
        { seconds := 2147483647 }, { seconds := 0 }⟩ },
     { resource := .soa ⟨⟨[.text [0x6E]]⟩, ⟨"", ⟨[.bits [0x80] 1]⟩⟩, 8, { seconds := 0 },
        { seconds := 0 }, { seconds := 0 }, { seconds := 0 }⟩ }]
  additionals := [{ resource := .unknown 41 [0xFF, 0x00] }]

theorem decode_encode_mixture :
    mixture.IsRepresentable
      ∧ ∃ octets, mixture.encode = .ok octets ∧ decode octets = .ok mixture.clamp := by
  have hmixture : mixture.IsRepresentable := by
    refine ⟨⟨by decide, by decide⟩, by decide, ?_, by decide, rfl⟩
    · simp only [records, mixture, List.cons_append, List.nil_append, List.forall_mem_cons]
      refine ⟨?_, ?_, ?_, ?_, ?_, by simp⟩ <;> rintro data ⟨⟩ <;> decide
  exact ⟨hmixture, decode_encode hmixture⟩

/-- What was read and written again is read as an equal message, and even the same one, exactly if
no mailbox has a name that stands for another one. -/
theorem decode_encode_of_decode {octets' : Octets} (h : decode octets = .ok m)
    (h' : m.encode = .ok octets') :
    ∃ m', decode octets' = .ok m'
      ∧ (m'.same m ↔ ∀ mailbox ∈ m.mailboxes, ¬ mailbox.IsAmbiguous)
      ∧ ((∀ mailbox ∈ m.mailboxes, ¬ mailbox.IsAmbiguous) → m' = m) := by
  have hm := isRead_of_decode h
  have hat := atSign_notMem_of_isRead hm
  refine ⟨m.reread, decode_of_encode (isValid_of_isRead hm) h', ?_, ?_⟩
  · rw [same_reread_iff hm]
    apply forall₂_congr
    intro mailbox hmailbox
    exact Mailbox.fold_reread_eq_iff (hat mailbox hmailbox)
  · intro hambiguous
    rw [reread_eq_clamp hm.provenance_eq, clamp_eq_of_isRead hm]
    intro mailbox hmailbox
    exact Mailbox.reread_eq_self (hat mailbox hmailbox) (hambiguous mailbox hmailbox)

/-- A response that tells of the zone of the root and of its mailbox. -/
def zoneOf (mailbox : Mailbox) : Message where
  header := { direction := .response }
  answers := [{ resource := .soa ⟨.root, mailbox, 0, { seconds := 0 }, { seconds := 0 },
    { seconds := 0 }, { seconds := 0 }⟩ }]

/-- The octets of such a response, with the name of the mailbox. -/
def zoneOctets (name : Octets) : Octets :=
  [0, 0, 0x80, 0, 0, 0, 0, 1, 0, 0, 0, 0, 0, 0, 6, 0, 1, 0, 0, 0, 0, 0,
    .ofNat (21 + name.length), 0] ++ name ++ List.replicate 20 0

lemma decode_zoneOctets (name : Octets) (mailbox : Mailbox) (hmailbox : mailbox.domain.IsValid)
    (h : (zoneOf mailbox).encode = .ok (zoneOctets name)) :
    decode (zoneOctets name) = .ok (zoneOf mailbox.reread) := by
  refine decode_of_encode ⟨by simp [zoneOf], ?_⟩ h
  simp only [zoneOf, records, List.append_nil, List.forall_mem_singleton]
  exact ⟨Name.isValid_root, Name.isValid_root, hmailbox⟩

theorem decode_encode_zoneOf :
    ∃ m', decode (zoneOctets [1, 0x61, 0]) = .ok m' ∧ m' = zoneOf ⟨"a", .root⟩ := by
  have hm := decode_zoneOctets [1, 0x61, 0] ⟨"a", .root⟩ (by decide) rfl
  obtain ⟨m', hm', -, heq⟩ := decode_encode_of_decode hm rfl
  exact ⟨m', hm', heq (by decide)⟩

/-- A label that begins with an at sign is read as a domain without local part, which is read as a
local part where it was written. -/
theorem not_same_of_atSign :
    ∃ m m', decode (zoneOctets [2, 0x40, 0x61, 0]) = .ok m
      ∧ m.encode = .ok (zoneOctets [1, 0x61, 0])
      ∧ decode (zoneOctets [1, 0x61, 0]) = .ok m' ∧ m'.same m = false := by
  have hm := decode_zoneOctets [2, 0x40, 0x61, 0] ⟨"", ⟨[.text [0x40, 0x61]]⟩⟩ (by decide) rfl
  have hm' := decode_zoneOctets [1, 0x61, 0] ⟨"", ⟨[.text [0x61]]⟩⟩ (by decide) rfl
  exact ⟨_, _, hm, rfl, hm', by decide⟩

/-- A message that was read is written so that it can be read again, or fails for data that are too
long, exactly if every local part that is too long stands behind such data. Otherwise it fails for
such a local part. -/
theorem encode_of_decode (h : decode octets = .ok m) :
    (m.IsRewritten ∨ m.FailsForData ↔ m.LocalPartsFit)
      ∧ (¬ m.LocalPartsFit → ∃ r ∈ m.records, ∃ n, r.resource.HasLongLocalPart n
        ∧ m.encode = .error (.format (.localPartTooLong n))) := by
  have hm := isRead_of_decode h
  have hvalid := isValid_of_isRead hm
  rw [localPartsFit_iff hvalid hm.sectionSizes_le]
  constructor
  · constructor
    · rintro (⟨octets, hencode, -⟩ | ⟨-, -, n, -, -, hencode, rfl, -⟩) k hk
      · rw [hencode] at hk
        cases hk
      · rw [hencode] at hk
        cases hk
    · intro hne
      cases hencode : m.encode with
      | ok octets => exact Or.inl ⟨octets, hencode, m.reread, decode_of_encode hvalid hencode⟩
      | error e =>
        obtain ⟨before, r, after, hrecords, -, ⟨n, -, rfl⟩ | ⟨n, hn, rfl⟩⟩ :=
          exists_record_of_encode hvalid hm.sectionSizes_le hencode
        · exact (hne n hencode).elim
        · exact Or.inr ⟨r, by simp [hrecords], n, hn, _, hencode, rfl, rfl⟩
  · intro hne
    obtain ⟨n, hn⟩ := not_forall_not.mp hne
    obtain ⟨before, r, after, hrecords, -, ⟨k, hk, he⟩ | ⟨k, -, he⟩⟩ :=
      exists_record_of_encode hvalid hm.sectionSizes_le hn
    · cases he
      exact ⟨r, by simp [hrecords], n, hk, hn⟩
    · cases he

theorem encode_of_decode_zoneOf :
    ((zoneOf ⟨"a", .root⟩).IsRewritten ∨ (zoneOf ⟨"a", .root⟩).FailsForData
        ↔ (zoneOf ⟨"a", .root⟩).LocalPartsFit)
      ∧ (¬ (zoneOf ⟨"a", .root⟩).LocalPartsFit →
        ∃ r ∈ (zoneOf ⟨"a", .root⟩).records, ∃ n, r.resource.HasLongLocalPart n
          ∧ (zoneOf ⟨"a", .root⟩).encode = .error (.format (.localPartTooLong n))) :=
  encode_of_decode (decode_zoneOctets [1, 0x61, 0] ⟨"a", .root⟩ (by decide) rfl)

/-- Twenty-two octets that are no text fit into a label, but what replaces them does not. -/
theorem encode_error_of_replacement :
    ∃ m, decode (zoneOctets (22 :: List.replicate 22 0xFF ++ [0])) = .ok m
      ∧ m.encode = .error (.format (.localPartTooLong 66)) :=
  ⟨_, decode_zoneOctets _ ⟨"", ⟨[.text (List.replicate 22 0xFF)]⟩⟩ (by decide) rfl, rfl⟩

end Message

end StubResolver
