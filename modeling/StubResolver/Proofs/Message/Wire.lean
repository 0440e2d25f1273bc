import StubResolver.Proofs.Message.Header
import StubResolver.Proofs.Resource.Decoded

/-!
# Reading messages

A message is read back from its encoding section by section. Whatever is read as a message has
sections that can be counted, names that fit the wire, and records that were read.
-/

namespace StubResolver

/-! ### Questions -/

lemma Question.reads_recordType (t : RecordType) :
    Decoder.Reads decoder.recordType (Octets.ofUInt16 t.code) t := by
  intro p i h
  rw [decoder.recordType, Decoder.bind_of_ok (Decoder.reads_uint16 t.code p i h)]
  simp only [RecordType.ofCode?_code]
  rfl

/-- A question is read back from its encoding. -/
lemma Question.reads_encode {q : Question} (hq : q.name.IsValid) : decoder.Reads q.encode q := by
  rw [encode, List.append_assoc]
  exact (Name.reads_encode hq).bind
    ((reads_recordType q.type).bind ((reads_recordClass q.cls).bind_pure _))

lemma Question.yields_decoder : decoder.Yields fun q => q.name.IsValid :=
  Name.yields_decoder.bind fun _ hname =>
    Decoder.yields_bind fun _ => Decoder.yields_bind fun _ => Decoder.yields_pure hname

lemma Question.throws_decoder : decoder.Throws Error.IsMalformed := by
  refine Name.throws_decoder.bind fun name => Decoder.Throws.bind ?_ fun type => ?_
  · refine (Decoder.throws_uint16 trivial).bind fun code => ?_
    split
    · exact Decoder.throws_pure _
    · exact Decoder.throws_fail trivial
  · exact Record.throws_recordClass.bind_pure _

namespace Message

/-! ### What is sent -/

/-- The numbers of entries of the sections. -/
def sectionSizes (m : Message) : List Nat :=
  [m.questions.length, m.answers.length, m.authorities.length, m.additionals.length]

/-- The message with each of its records changed. -/
def mapRecords (f : Record → Record) (m : Message) : Message :=
  { m with
    answers := m.answers.map f
    authorities := m.authorities.map f
    additionals := m.additionals.map f }

/-- The message with its times as they are sent. -/
def clamp (m : Message) : Message := m.mapRecords Record.clamp

/-- The message as it is read back after it was written. -/
def reread (m : Message) : Message :=
  { m with provenance := none }.mapRecords Record.reread

lemma mapRecords_congr {m : Message} {f g : Record → Record} (h : ∀ r ∈ m.records, f r = g r) :
    m.mapRecords f = m.mapRecords g := by
  simp only [records, List.forall_mem_append] at h
  obtain ⟨⟨hanswers, hauthorities⟩, hadditionals⟩ := h
  simp only [mapRecords, List.map_congr_left hanswers, List.map_congr_left hauthorities,
    List.map_congr_left hadditionals]

lemma mapRecords_eq_self {m : Message} {f : Record → Record} (h : ∀ r ∈ m.records, f r = r) :
    m.mapRecords f = m := by
  rw [mapRecords_congr h]
  simp [mapRecords]

/-- A message that the wire can carry, if its sections, local parts and data are not too long. -/
structure IsValid (m : Message) : Prop where
  questions_isValid : ∀ q ∈ m.questions, q.name.IsValid
  records_isValid : ∀ r ∈ m.records, r.IsValid

/-! ### Writing -/

lemma mapM_encodeCount_eq_ok_iff {sizes : List Nat} {counts : List Octets} :
    sizes.mapM encodeCount = .ok counts ↔
      (∀ n ∈ sizes, n ≤ maxEntries) ∧ counts = sizes.map fun n => Octets.ofUInt16 (.ofNat n) := by
  induction sizes generalizing counts with
  | nil => simp [eq_comm]
  | cons n sizes ih =>
    rw [List.mapM_cons, except_bind_eq_ok_iff, List.forall_mem_cons]
    simp only [except_bind_eq_ok_iff, ih, encodeCount]
    constructor
    · rintro ⟨count, hcount, counts, ⟨hsizes, rfl⟩, h⟩
      split_ifs at hcount with hn
      cases hcount
      cases h
      exact ⟨⟨Nat.le_of_not_lt hn, hsizes⟩, rfl⟩
    · rintro ⟨⟨hn, hsizes⟩, rfl⟩
      exact ⟨_, if_neg (Nat.not_lt.mpr hn), _, ⟨hsizes, rfl⟩, rfl⟩

/-- A message can be written if its sections can be counted and its records can be written. -/
lemma encode_eq_ok_iff {m : Message} {octets : Octets} :
    m.encode = .ok octets ↔
      (∀ n ∈ m.sectionSizes, n ≤ maxEntries)
        ∧ ∃ records, m.records.mapM Record.encode = .ok records
          ∧ octets = m.header.encode
            ++ (m.sectionSizes.map fun n => Octets.ofUInt16 (.ofNat n)).flatten
            ++ m.questions.flatMap Question.encode ++ records.flatten := by
  unfold encode
  rw [except_bind_eq_ok_iff]
  constructor
  · rintro ⟨counts, hcounts, h⟩
    obtain ⟨hsizes, rfl⟩ := mapM_encodeCount_eq_ok_iff.mp hcounts
    obtain ⟨records, hrecords, h⟩ := except_bind_eq_ok_iff.mp h
    cases h
    exact ⟨hsizes, records, hrecords, rfl⟩
  · rintro ⟨hsizes, records, hrecords, rfl⟩
    refine ⟨_, mapM_encodeCount_eq_ok_iff.mpr ⟨hsizes, rfl⟩, ?_⟩
    rw [hrecords]
    rfl

/-- A message whose sections can be counted fails to be written as its records do. -/
lemma encode_eq_error_iff {m : Message} {e : Error}
    (hsizes : ∀ n ∈ m.sectionSizes, n ≤ maxEntries) :
    m.encode = .error e ↔ m.records.mapM Record.encode = .error e := by
  have hcounts : m.sectionSizes.mapM encodeCount = .ok _ :=
    mapM_encodeCount_eq_ok_iff.mpr ⟨hsizes, rfl⟩
  unfold sectionSizes at hcounts
  unfold encode
  rw [hcounts, ok_bind, except_bind_eq_error_iff]
  simp

/-! ### Reading what was written -/

lemma finishes_atEnd : Decoder.Finishes decoder.atEnd [] () := by
  intro p i _ hend
  obtain rfl : i = p.size := by simpa using hend
  simp [decoder.atEnd, Decoder.remaining]

lemma reads_records {n : UInt16} {records : List Record} {encoded : List Octets}
    (hn : n.toNat = records.length) (hrecords : ∀ r ∈ records, r.IsValid)
    (h : records.mapM Record.encode = .ok encoded) :
    (Decoder.replicate n.toNat Record.decoder).Reads encoded.flatten
      (records.map Record.reread) := by
  have hread : List.Forall₂ Record.decoder.Reads encoded (records.map Record.reread) := by
    rw [List.forall₂_map_right_iff]
    refine List.Forall₂.flip ?_
    exact ((List.forall₂_and_left _ _).mpr ⟨hrecords, mapM_eq_ok_iff.mp h⟩).imp
      fun r s hrs => Record.reads_decoder hrs.1 hrs.2
  rw [hn, ← List.length_map (f := Record.reread)]
  exact Decoder.reads_replicate hread

lemma reads_questions {n : UInt16} {questions : List Question}
    (hn : n.toNat = questions.length) (hquestions : ∀ q ∈ questions, q.name.IsValid) :
    (Decoder.replicate n.toNat Question.decoder).Reads (questions.flatMap Question.encode)
      questions := by
  rw [hn, List.flatMap_def]
  refine Decoder.reads_replicate ?_
  rw [List.forall₂_map_left_iff, List.forall₂_same]
  exact fun q hq => Question.reads_encode (hquestions q hq)

lemma toNat_ofNat_of_le {n : Nat} (h : n ≤ maxEntries) : (UInt16.ofNat n).toNat = n :=
  UInt16.toNat_ofNat_of_lt' (Nat.lt_succ_of_le h)

/-- A message is read back from its encoding. -/
lemma decode_of_encode {m : Message} {octets : Octets} (hm : m.IsValid)
    (h : m.encode = .ok octets) : decode octets = .ok m.reread := by
  obtain ⟨hsizes, encoded, hencoded, rfl⟩ := encode_eq_ok_iff.mp h
  simp only [sectionSizes, List.forall_mem_cons] at hsizes
  obtain ⟨hquestions, hanswers, hauthorities, hadditionals, -⟩ := hsizes
  have hrecords := hm.records_isValid
  simp only [records, List.forall_mem_append] at hrecords
  obtain ⟨⟨hr₁, hr₂⟩, hr₃⟩ := hrecords
  simp only [records, List.mapM_append, except_bind_eq_ok_iff, except_pure, Except.ok.injEq]
    at hencoded
  obtain ⟨_, ⟨e₁, he₁, e₂, he₂, rfl⟩, e₃, he₃, rfl⟩ := hencoded
  have hfinishes : decoder.Finishes (m.header.encode
      ++ (Octets.ofUInt16 (.ofNat m.questions.length)
      ++ (Octets.ofUInt16 (.ofNat m.answers.length)
      ++ (Octets.ofUInt16 (.ofNat m.authorities.length)
      ++ (Octets.ofUInt16 (.ofNat m.additionals.length)
      ++ (m.questions.flatMap Question.encode
      ++ (e₁.flatten ++ (e₂.flatten ++ (e₃.flatten ++ []))))))))) m.reread :=
    (Header.reads_encode m.header).bind_finishes
      ((Decoder.reads_uint16 (.ofNat m.questions.length)).bind_finishes
      ((Decoder.reads_uint16 (.ofNat m.answers.length)).bind_finishes
      ((Decoder.reads_uint16 (.ofNat m.authorities.length)).bind_finishes
      ((Decoder.reads_uint16 (.ofNat m.additionals.length)).bind_finishes
      ((reads_questions (toNat_ofNat_of_le hquestions) hm.questions_isValid).bind_finishes
      ((reads_records (toNat_ofNat_of_le hanswers) hr₁ he₁).bind_finishes
      ((reads_records (toNat_ofNat_of_le hauthorities) hr₂ he₂).bind_finishes
      ((reads_records (toNat_ofNat_of_le hadditionals) hr₃ he₃).bind_finishes
      (finishes_atEnd.bind_pure _)))))))))
  simp only [List.append_nil] at hfinishes
  have hdecoder := hfinishes _ 0 (Packet.holds_toArray _) (by simp)
  simp only [decode, sectionSizes, List.map_cons, List.map_nil, List.flatten_cons,
    List.flatten_nil, List.flatten_append, List.append_nil, List.append_assoc, hdecoder]

/-! ### What is read -/

/-- A message as it can be read from a packet. -/
structure IsRead (m : Message) : Prop where
  questions_isValid : ∀ q ∈ m.questions, q.name.IsValid
  records_isRead : ∀ r ∈ m.records, r.IsRead
  sectionSizes_le : ∀ n ∈ m.sectionSizes, n ≤ maxEntries
  provenance_eq : m.provenance = none

lemma yields_decoder : decoder.Yields IsRead := by
  refine Decoder.yields_bind fun header => ?_
  refine Decoder.yields_bind fun n₁ => Decoder.yields_bind fun n₂ => ?_
  refine Decoder.yields_bind fun n₃ => Decoder.yields_bind fun n₄ => ?_
  have hrecords (n : UInt16) := Decoder.yields_replicate Record.yields_decoder n.toNat
  refine (Decoder.yields_replicate Question.yields_decoder n₁.toNat).bind ?_
  intro questions ⟨hlen₁, hquestions⟩
  refine (hrecords n₂).bind fun answers ⟨hlen₂, hanswers⟩ => ?_
  refine (hrecords n₃).bind fun authorities ⟨hlen₃, hauthorities⟩ => ?_
  refine (hrecords n₄).bind fun additionals ⟨hlen₄, hadditionals⟩ => ?_
  refine Decoder.yields_bind fun _ => Decoder.yields_pure ⟨hquestions, ?_, ?_, rfl⟩
  · simp only [records, List.forall_mem_append]
    exact ⟨⟨hanswers, hauthorities⟩, hadditionals⟩
  · have hle (n : UInt16) : n.toNat ≤ maxEntries := Nat.le_of_lt_succ n.toNat_lt
    simp [sectionSizes, hlen₁, hlen₂, hlen₃, hlen₄, hle]

/-- Whatever octets stand for can be read. -/
lemma isRead_of_decode {octets : Octets} {m : Message} (h : decode octets = .ok m) :
    m.IsRead := by
  unfold decode at h
  split at h
  next m' j hdecoder =>
    cases h
    exact yields_decoder _ 0 m j hdecoder
  next => cases h

/-- The header and the numbers of entries stand in front of a message that was read. -/
lemma parts_of_decode {octets : Octets} {m : Message} (h : decode octets = .ok m) :
    ∃ n₁ n₂ n₃ n₄ : UInt16, Header.decoder octets.toArray 0 = .ok (m.header, 4)
      ∧ Decoder.uint16 octets.toArray 4 = .ok (n₁, 6)
      ∧ Decoder.uint16 octets.toArray 6 = .ok (n₂, 8)
      ∧ Decoder.uint16 octets.toArray 8 = .ok (n₃, 10)
      ∧ Decoder.uint16 octets.toArray 10 = .ok (n₄, 12)
      ∧ m.sectionSizes = [n₁.toNat, n₂.toNat, n₃.toNat, n₄.toNat] := by
  unfold decode at h
  split at h
  next m' j hdecoder =>
    cases h
    obtain ⟨header, i, hheader, h₁⟩ := Decoder.bind_eq_ok hdecoder
    obtain ⟨n₁, i₁, hn₁, h₂⟩ := Decoder.bind_eq_ok h₁
    obtain ⟨n₂, i₂, hn₂, h₃⟩ := Decoder.bind_eq_ok h₂
    obtain ⟨n₃, i₃, hn₃, h₄⟩ := Decoder.bind_eq_ok h₃
    obtain ⟨n₄, i₄, hn₄, h₅⟩ := Decoder.bind_eq_ok h₄
    obtain ⟨questions, _, hquestions, h₆⟩ := Decoder.bind_eq_ok h₅
    obtain ⟨answers, _, hanswers, h₇⟩ := Decoder.bind_eq_ok h₆
    obtain ⟨authorities, _, hauthorities, h₈⟩ := Decoder.bind_eq_ok h₇
    obtain ⟨additionals, _, hadditionals, h₉⟩ := Decoder.bind_eq_ok h₈
    obtain ⟨_, _, _, hend⟩ := Decoder.bind_eq_ok h₉
    cases hend
    obtain ⟨rfl, -⟩ := Header.truncated_of_decoder hheader
    obtain ⟨rfl, -⟩ := Decoder.uint16_eq_ok hn₁
    obtain ⟨rfl, -⟩ := Decoder.uint16_eq_ok hn₂
    obtain ⟨rfl, -⟩ := Decoder.uint16_eq_ok hn₃
    obtain ⟨rfl, -⟩ := Decoder.uint16_eq_ok hn₄
    have hlength {α : Type} {d : Decoder α} {n i j : Nat} {as : List α}
        (hread : Decoder.replicate n d octets.toArray i = .ok (as, j)) : as.length = n :=
      (Decoder.yields_replicate Decoder.yields_true n _ i as j hread).1
    refine ⟨n₁, n₂, n₃, n₄, hheader, hn₁, hn₂, hn₃, hn₄, ?_⟩
    simp only [sectionSizes, hlength hquestions, hlength hanswers, hlength hauthorities,
      hlength hadditionals]
  next => cases h

/-- A look at the raw octets tells of every message that was read whether it was cut off. -/
lemma isTruncated_of_decode {octets : Octets} {m : Message} (h : decode octets = .ok m) :
    isTruncated octets = m.header.truncated := by
  obtain ⟨_, _, _, n₄, hheader, -, -, -, hn₄, -⟩ := parts_of_decode h
  obtain ⟨-, first, hfirst, htruncated⟩ := Header.truncated_of_decoder hheader
  obtain ⟨-, _, _, -, hlow, -⟩ := Decoder.uint16_eq_ok hn₄
  have hlength : Header.length ≤ octets.length := by
    have hlast := (Array.getElem?_eq_some_iff.mp hlow).1
    rwa [List.size_toArray] at hlast
  have hoctet : octets[2]? = some first := by simpa using hfirst
  simp [isTruncated, hlength, hoctet, htruncated]

lemma throws_decoder : decoder.Throws Error.IsUnreadable := by
  have hcount : Decoder.uint16.Throws Error.IsUnreadable := Decoder.throws_uint16 trivial
  have hrecords (n : Nat) := Decoder.throws_replicate Record.throws_decoder n
  have hquestion : Question.decoder.Throws Error.IsUnreadable :=
    Question.throws_decoder.imp fun _ => Error.IsMalformed.isUnreadable
  refine (Header.throws_decoder.imp fun _ => Error.IsMalformed.isUnreadable).bind fun header => ?_
  refine hcount.bind fun n₁ => hcount.bind fun n₂ => hcount.bind fun n₃ => ?_
  refine hcount.bind fun n₄ => (Decoder.throws_replicate hquestion _).bind fun questions => ?_
  refine (hrecords _).bind fun answers => (hrecords _).bind fun authorities => ?_
  refine (hrecords _).bind fun additionals => Decoder.Throws.bind_pure ?_ _
  intro p i e h
  unfold decoder.atEnd at h
  split_ifs at h
  cases h
  trivial

/-- Octets that stand for no message are refused for what they hold. -/
lemma isUnreadable_of_decode {octets : Octets} {e : Error} (h : decode octets = .error e) :
    e.IsUnreadable := by
  unfold decode at h
  split at h
  next => cases h
  next e' hdecoder =>
    cases h
    exact throws_decoder _ 0 _ hdecoder

lemma isValid_of_isRead {m : Message} (h : m.IsRead) : m.IsValid :=
  ⟨h.questions_isValid, fun r hr => Record.isValid_of_isRead (h.records_isRead r hr)⟩

end Message

end StubResolver
