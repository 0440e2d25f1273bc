import StubResolver.Proofs.Message.RoundTrip

/-!
# The layout of a message

A number of entries or a length that is written is never cut off. A message in which one of them
does not fit into the octets that are left for it is not written at all, and in any other message
all of them are those of what follows.
-/

namespace StubResolver

/-! ### What does not fit -/

/-- A local part, a string or the data of a resource are too long for the octets that hold their
length. -/
inductive Resource.IsTooLong : Resource → Prop where
  | localPart {s : Authority} (h : 63 < s.mailbox.localOctets.length) : IsTooLong (.soa s)
  | string {strings : List Octets} {s : Octets} (hs : s ∈ strings) (h : 255 < s.length) :
    IsTooLong (.txt strings)
  | data {r : Resource} (h : 65535 < r.dataLength) : IsTooLong r

/-- A section has too many entries for the octets that hold their number, or a record is too
long. -/
inductive Message.IsTooLong (m : Message) : Prop where
  | entries {n : Nat} (hn : n ∈ m.sectionSizes) (h : 65535 < n)
  | record {r : Record} (hr : r ∈ m.records) (h : r.resource.IsTooLong)

namespace Resource

variable {r : Resource} {e : Error}

lemma isTooLong_of_encode_error (h : r.encode = .error e) : r.IsTooLong := by
  rcases encode_eq_error_iff.mp h with ⟨n, hn, -⟩ | ⟨n, hn, -⟩
  · obtain ⟨m, hm, hlong⟩ := exists_hasLongLocalPart_iff.mp ⟨n, hn⟩
    cases r with
    | soa s =>
      cases hm
      exact .localPart hlong
    | _ => cases hm
  · obtain ⟨strings, rfl, s, hs, hlong⟩ := exists_hasLongString_iff.mp ⟨n, hn⟩
    exact .string hs hlong

/-- Where data can be written, their own length is all that can be too long. -/
lemma isTooLong_iff_of_encode {data : Octets} (h : r.encode = .ok data) :
    r.IsTooLong ↔ 65535 < data.length := by
  rw [length_of_encode h]
  refine ⟨fun hlong => ?_, .data⟩
  cases hlong with
  | localPart hlong =>
    obtain ⟨n, hn⟩ := (exists_hasLongLocalPart_iff (r := .soa _)).mpr ⟨_, rfl, hlong⟩
    cases h.symm.trans hn.encode_eq
  | string hs hlong =>
    obtain ⟨n, hn⟩ := exists_hasLongString_iff.mpr ⟨_, rfl, _, hs, hlong⟩
    cases h.symm.trans (encode_eq_error_iff.mpr (Or.inr ⟨n, hn, rfl⟩))
  | data hlong => exact hlong

end Resource

/-! ### What is not written -/

namespace Record

variable {r : Record} {octets : Octets} {e : Error}

/-- A record can be written if its data can be and are not too long. -/
lemma encode_eq_ok_iff :
    r.encode = .ok octets ↔ ∃ data, r.resource.encode = .ok data ∧ data.length ≤ maxDataLength
      ∧ octets = r.name.encode ++ Octets.ofUInt16 r.resource.typeCode ++ Octets.ofUInt16 r.cls.code
        ++ encodeSeconds r.ttl ++ Octets.ofUInt16 (.ofNat data.length) ++ data := by
  rw [encode, except_bind_eq_ok_iff]
  apply exists_congr
  intro data
  apply and_congr_right
  intro _
  split_ifs with hlong
  · simp [Nat.not_le.mpr hlong]
  · simp [Nat.le_of_not_lt hlong, eq_comm]

lemma exists_encode_iff : (∃ octets, r.encode = .ok octets) ↔ ¬ r.resource.IsTooLong := by
  simp only [encode_eq_ok_iff]
  constructor
  · rintro ⟨octets, data, hdata, hle, -⟩
    rw [Resource.isTooLong_iff_of_encode hdata]
    exact Nat.not_lt.mpr hle
  · intro hfits
    cases hdata : r.resource.encode with
    | error e => exact (hfits (Resource.isTooLong_of_encode_error hdata)).elim
    | ok data =>
      rw [Resource.isTooLong_iff_of_encode hdata, Nat.not_lt] at hfits
      exact ⟨_, data, rfl, hfits, rfl⟩

lemma exists_fault_of_encode (h : r.encode = .error e) : ∃ fault, e = .format fault := by
  rcases encode_eq_error_iff.mp h with hdata | ⟨n, -, rfl⟩
  · rcases Resource.encode_eq_error_iff.mp hdata with ⟨n, -, rfl⟩ | ⟨n, -, rfl⟩
    · exact ⟨_, rfl⟩
    · exact ⟨_, rfl⟩
  · exact ⟨_, rfl⟩

end Record

namespace Message

variable {m : Message} {octets : Octets} {e : Error}

/-- A message can be written exactly if all numbers and lengths in it fit. -/
lemma exists_encode_iff : (∃ octets, m.encode = .ok octets) ↔ ¬ m.IsTooLong := by
  have hparts : (∃ octets, m.encode = .ok octets) ↔
      (∀ n ∈ m.sectionSizes, n ≤ maxEntries) ∧ ∀ r ∈ m.records, ¬ r.resource.IsTooLong := by
    simp only [← Record.exists_encode_iff, ← exists_mapM_eq_ok_iff, encode_eq_ok_iff]
    exact ⟨fun ⟨_, hsizes, records, h, _⟩ => ⟨hsizes, records, h⟩,
      fun ⟨hsizes, records, h⟩ => ⟨_, hsizes, records, h, rfl⟩⟩
  rw [hparts]
  constructor
  · rintro ⟨hsizes, hrecords⟩ (⟨hn, hlong⟩ | ⟨hr, hlong⟩)
    · exact Nat.not_lt.mpr (hsizes _ hn) hlong
    · exact hrecords _ hr hlong
  · intro hfits
    exact ⟨fun n hn => Nat.le_of_not_lt fun hlong => hfits (.entries hn hlong),
      fun r hr hlong => hfits (.record hr hlong)⟩

lemma exists_fault_of_encode (h : m.encode = .error e) : ∃ fault, e = .format fault := by
  rcases except_bind_eq_error_iff.mp h with h | ⟨counts, -, h⟩
  · obtain ⟨-, n, -, -, -, hn⟩ := mapM_eq_error_iff.mp h
    unfold encodeCount at hn
    split_ifs at hn
    cases hn
    exact ⟨_, rfl⟩
  · rcases except_bind_eq_error_iff.mp h with h | ⟨records, -, ⟨⟩⟩
    obtain ⟨-, r, -, -, -, hr⟩ := mapM_eq_error_iff.mp h
    exact Record.exists_fault_of_encode hr

lemma exists_fault_iff : (∃ fault, m.encode = .error (.format fault)) ↔ m.IsTooLong := by
  rw [← not_iff_not, ← exists_encode_iff]
  cases h : m.encode with
  | ok octets => simp
  | error e =>
    obtain ⟨fault, rfl⟩ := exists_fault_of_encode h
    simp

end Message

/-! ### What is written -/

/-- The number of octets of a question on the wire. -/
def Question.wireLength (q : Question) : Nat := q.name.wireLength + 4

namespace Record

/-- The number of octets on the wire, found without encoding. -/
def wireLength (r : Record) : Nat := r.name.wireLength + 10 + r.resource.dataLength

/-- Where the length of the data stands in a record that begins at a position. -/
def lengthStart (r : Record) (start : Nat) : Nat := start + r.name.wireLength + 8

/-- A record takes up what stands in octets between two positions. Its data take up all that stands
behind their length, and this is the number of these octets. -/
structure Occupies (r : Record) (octets : Octets) (start stop : Nat) : Prop where
  encode_eq : r.encode = .ok (octets.extract start stop)
  data_eq : r.resource.encode = .ok (octets.extract (r.lengthStart start + 2) stop)
  number_eq : octets.numberAt? (r.lengthStart start) = some (stop - (r.lengthStart start + 2))
  stop_eq : stop = r.lengthStart start + 2 + r.resource.dataLength
  stop_le : stop ≤ octets.length

variable {r : Record} {octets : Octets}

lemma length_of_encode {own : Octets} (h : r.encode = .ok own) : own.length = r.wireLength := by
  obtain ⟨data, hdata, -, rfl⟩ := encode_eq_ok_iff.mp h
  simp [encodeSeconds, wireLength, Resource.length_of_encode hdata]
  omega

lemma occupies_append {own : Octets} (h : r.encode = .ok own) (front rest : Octets) :
    r.Occupies (front ++ (own ++ rest)) front.length (front.length + r.wireLength) := by
  obtain ⟨data, hdata, hle, rfl⟩ := encode_eq_ok_iff.mp h
  have hlength := Resource.length_of_encode hdata
  have hnumber : (UInt16.ofNat data.length).toNat = data.length := Message.toNat_ofNat_of_le hle
  have hhead : (r.name.encode ++ Octets.ofUInt16 r.resource.typeCode ++ Octets.ofUInt16 r.cls.code
      ++ encodeSeconds r.ttl).length = r.name.wireLength + 8 := by
    simp [encodeSeconds]
  generalize r.name.encode ++ Octets.ofUInt16 r.resource.typeCode ++ Octets.ofUInt16 r.cls.code
      ++ encodeSeconds r.ttl = head at h hhead ⊢
  have hstop : front.length + r.wireLength = r.lengthStart front.length + 2 + data.length := by
    simp only [hlength, lengthStart, wireLength]
    omega
  have hstart : (front ++ head).length = r.lengthStart front.length := by
    simp [hhead, lengthStart, Nat.add_assoc]
  have hsplit : front ++ (head ++ Octets.ofUInt16 (.ofNat data.length) ++ data ++ rest)
      = front ++ head ++ (Octets.ofUInt16 (.ofNat data.length) ++ (data ++ rest)) := by
    simp only [List.append_assoc]
  constructor
  · rw [Octets.extract_append rfl, h]
    rw [length_of_encode h]
  · rw [hsplit, ← List.append_assoc _ _ (data ++ rest), Octets.extract_append, hdata]
    · rw [List.length_append, hstart, Octets.length_ofUInt16]
    · exact hstop.symm
  · rw [hsplit, Octets.numberAt?_append hstart.le, hstart, Nat.sub_self,
      Octets.numberAt?_ofUInt16, hnumber, hstop, Nat.add_sub_cancel_left]
  · rw [hstop, hlength]
  · rw [hstop, hsplit, List.length_append, hstart]
    simp [Nat.add_assoc]

end Record

namespace Message

variable {m : Message} {octets : Octets}

/-- Where the records of a message go on behind some of them. -/
def offset (m : Message) (before : List Record) : Nat :=
  12 + (m.questions.map Question.wireLength).sum + (before.map Record.wireLength).sum

/-- All numbers and lengths in a message that was written are those of what follows. -/
structure IsLaidOut (m : Message) (octets : Octets) : Prop where
  counts_eq : [4, 6, 8, 10].map octets.numberAt? = m.sectionSizes.map some
  records_occupy : ∀ before r after, m.records = before ++ r :: after →
    r.Occupies octets (m.offset before) (m.offset (before ++ [r]))
  length_eq : octets.length = m.offset m.records

/-- What stands in front of the records of a message. -/
def opening (m : Message) : Octets :=
  m.header.encode ++ (m.sectionSizes.map fun n => Octets.ofUInt16 (.ofNat n)).flatten
    ++ m.questions.flatMap Question.encode

lemma length_opening : m.opening.length = m.offset [] := by
  have hquestions : (m.questions.flatMap Question.encode).length
      = (m.questions.map Question.wireLength).sum := by
    rw [List.length_flatMap]
    congr 2
    funext q
    simp [Question.encode, Question.wireLength]
  simp [opening, offset, Header.encode, sectionSizes, hquestions]
  omega

/-- A record stands behind what was written of the records in front of it. -/
lemma exists_append_of_encode (h : m.encode = .ok octets) {before after : List Record} {r : Record}
    (hrecords : m.records = before ++ r :: after) :
    ∃ front own rest, octets = front ++ (own ++ rest) ∧ front.length = m.offset before
      ∧ r.encode = .ok own := by
  obtain ⟨-, encoded, hencoded, rfl⟩ := encode_eq_ok_iff.mp h
  simp only [hrecords, List.mapM_append, List.mapM_cons, except_bind_eq_ok_iff, except_pure,
    Except.ok.injEq] at hencoded
  obtain ⟨front, hfront, -, ⟨own, hown, rest, -, rfl⟩, rfl⟩ := hencoded
  refine ⟨m.opening ++ front.flatten, own, rest.flatten, ?_, ?_, hown⟩
  · rw [List.flatten_append, List.flatten_cons, ← List.append_assoc]
    rfl
  · rw [List.length_append, length_opening,
      length_flatten_of_mapM (fun _ _ => Record.length_of_encode) hfront]
    simp [offset]

lemma counts_of_encode (h : m.encode = .ok octets) :
    [4, 6, 8, 10].map octets.numberAt? = m.sectionSizes.map some := by
  obtain ⟨hsizes, records, -, rfl⟩ := encode_eq_ok_iff.mp h
  simp only [sectionSizes, List.forall_mem_cons] at hsizes
  obtain ⟨hquestions, hanswers, hauthorities, hadditionals, -⟩ := hsizes
  have hheader (rest : Octets) (i : Nat) :
      Octets.numberAt? (m.header.encode ++ rest) (i + 4) = rest.numberAt? i := rfl
  have hcount (n : UInt16) (rest : Octets) (i : Nat) :
      Octets.numberAt? (Octets.ofUInt16 n ++ rest) (i + 2) = rest.numberAt? i := rfl
  simp only [sectionSizes, List.map_cons, List.map_nil, List.flatten_cons, List.flatten_nil,
    List.append_assoc, hheader, hcount, Octets.numberAt?_ofUInt16, toNat_ofNat_of_le hquestions,
    toNat_ofNat_of_le hanswers, toNat_ofNat_of_le hauthorities, toNat_ofNat_of_le hadditionals]

lemma isLaidOut_of_encode (h : m.encode = .ok octets) : m.IsLaidOut octets where
  counts_eq := counts_of_encode h
  records_occupy := by
    intro before r after hrecords
    obtain ⟨front, own, rest, rfl, hfront, hown⟩ := exists_append_of_encode h hrecords
    have hstop : m.offset (before ++ [r]) = m.offset before + r.wireLength := by
      simp [offset, Nat.add_assoc]
    rw [hstop, ← hfront]
    exact Record.occupies_append hown front rest
  length_eq := by
    obtain ⟨-, records, hrecords, rfl⟩ := encode_eq_ok_iff.mp h
    have hlength := length_flatten_of_mapM (fun _ _ => Record.length_of_encode) hrecords
    rw [← opening, List.length_append, length_opening, hlength]
    simp [offset]

/-- A message fails to be written, for its format, exactly if a number or a length in it does not
fit. What is written has the numbers and lengths of what follows them. -/
theorem encode_layout (m : Message) :
    ((∃ fault, m.encode = .error (.format fault)) ↔ m.IsTooLong)
      ∧ (¬ m.IsTooLong → ∃ octets, m.encode = .ok octets ∧ m.IsLaidOut octets) := by
  refine ⟨exists_fault_iff, fun hfits => ?_⟩
  obtain ⟨octets, h⟩ := exists_encode_iff.mpr hfits
  exact ⟨octets, h, isLaidOut_of_encode h⟩

/-- A message with records of many kinds is written with their lengths, and one with a local part of
64 octets is not. -/
theorem encode_layout_mixture :
    ¬ mixture.IsTooLong
      ∧ (∃ octets, mixture.encode = .ok octets ∧ mixture.IsLaidOut octets)
      ∧ ∃ fault, (zoneOf ⟨String.ofList (List.replicate 64 'a'), .root⟩).encode
        = .error (.format fault) := by
  have hfits : ¬ mixture.IsTooLong := exists_encode_iff.mp ⟨_, rfl⟩
  refine ⟨hfits, (encode_layout mixture).2 hfits, (encode_layout _).1.mpr ?_⟩
  exact .record (List.mem_singleton_self _) (.localPart (by decide))

end Message

end StubResolver
