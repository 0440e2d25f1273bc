import StubResolver.Proofs.Name.Walk
import StubResolver.Proofs.Resource.Decoded
import StubResolver.Proofs.Wire.Locality
import StubResolver.Proofs.Wire.Progress

/-!
# The extent of a record

Between the owner name of a record and its data stands a head of ten octets, which ends with the
length of the data. A record that is read ends exactly where that length says, although its data
are read from the whole packet and may follow pointers out of it. A record of a type that is not
decoded is always read if its data are there, and reading goes on behind it.
-/

namespace StubResolver

open Packet

/-! ### Data go forward -/

lemma Decoder.advances_seconds : Decoder.seconds.Advances := advances_uint32.bind_pure _

lemma Name.advances_decoder : Name.decoder.Advances := by
  intro p i n j h
  exact Nat.le_of_lt (exists_zero_of_decoder h).1.bounds.1

namespace Resource

variable {p : Packet} {i j length : Nat} {r : Resource}

lemma le_of_stringsOnto {stop : Nat} {done : List Octets} {s : List Octets × Nat}
    (h : stringsOnto stop done p i = .ok s) : i ≤ s.2 := by
  fun_induction stringsOnto stop done p i with
  | case1 => cases h
  | case2 => cases h
  | case3 done i _ n j hn s k hs ih =>
    have := ih h
    omega
  | case4 =>
    cases h
    exact Nat.le_refl _

lemma advances_strings (length : Nat) : (strings length).Advances :=
  fun _ _ _ _ h => le_of_stringsOnto h

lemma advances_authority : authority.Advances := by
  refine Name.advances_decoder.bind fun primary => Name.advances_decoder.bind fun mailbox => ?_
  refine Decoder.advances_uint32.bind fun serial => Decoder.advances_seconds.bind fun refresh => ?_
  refine Decoder.advances_seconds.bind fun retry => Decoder.advances_seconds.bind fun expire => ?_
  exact Decoder.advances_seconds.bind_pure _

lemma advances_content (t : RecordType) (length : Nat) : (content t length).Advances := by
  cases t with
  | a =>
    rw [content]
    split_ifs
    · exact Decoder.advances_fail _
    · exact (Decoder.advances_vector 4).bind_pure _
  | aaaa =>
    rw [content]
    split_ifs
    · exact Decoder.advances_fail _
    · exact (Decoder.advances_vector 16).bind_pure _
  | ns => exact Name.advances_decoder.bind_pure _
  | cname => exact Name.advances_decoder.bind_pure _
  | mx => exact Decoder.advances_uint16.bind fun _ => Name.advances_decoder.bind_pure _
  | soa => exact advances_authority.bind_pure _
  | txt => exact (advances_strings length).bind_pure _

/-- Data that are decoded take up their length, wherever their names and strings lead. -/
lemma eq_add_of_decoder {code : UInt16} (h : decoder code length p i = .ok (r, j)) :
    j = i + length := by
  cases hcode : RecordType.ofCode? code.toNat with
  | none =>
    simp only [decoder, hcode] at h
    cases h
  | some t =>
    simp only [decoder, hcode] at h
    obtain ⟨start, _, ⟨⟩, h⟩ := Decoder.bind_eq_ok h
    obtain ⟨r', stop, hcontent, h⟩ := Decoder.bind_eq_ok h
    obtain ⟨_, _, ⟨⟩, h⟩ := Decoder.bind_eq_ok h
    -- The difference that is compared with the length is not cut off at zero.
    have hle := advances_content t length p _ r' _ hcontent
    split_ifs at h with hlength
    · cases h
      omega
    · cases h

end Resource

/-! ### The head of a record -/

/-- A time is read from its octets. -/
lemma reads_seconds (n : UInt32) :
    Decoder.seconds.Reads (Octets.ofUInt32 n)
      { seconds := if n.toNat ≤ maxSeconds then n.toNat else 0 } :=
  (Decoder.reads_uint32 n).bind_pure _

namespace Decoder

variable {p : Packet} {i j : Nat}

lemma holds_of_recordClass {c : RecordClass} (h : recordClass p i = .ok (c, j)) :
    Holds p i (Octets.ofUInt16 c.code) ∧ j = i + 2 := by
  obtain ⟨code, k, hcode, h⟩ := bind_eq_ok h
  cases hc : RecordClass.ofCode? code.toNat with
  | none =>
    simp only [hc] at h
    cases h
  | some c' =>
    simp only [hc] at h
    cases h
    have hsame : c.code.toNat = code.toNat := by simpa using List.find?_some hc
    rw [UInt16.toNat_inj.mp hsame]
    exact holds_of_uint16 hcode

end Decoder

namespace Record

/-- What stands between the owner name of a record and its data: the number of the type, the class,
the time, and the length of the data. -/
structure Head where
  code : UInt16
  cls : RecordClass
  seconds : UInt32
  length : UInt16
  deriving DecidableEq, Repr

namespace Head

/-- The octets of a head. -/
def encode (head : Head) : Octets :=
  Octets.ofUInt16 head.code ++ Octets.ofUInt16 head.cls.code ++ Octets.ofUInt32 head.seconds
    ++ Octets.ofUInt16 head.length

/-- The time of a head. A time that does not fit into 31 bits is read as zero. -/
def ttl (head : Head) : Duration :=
  { seconds := if head.seconds.toNat ≤ maxSeconds then head.seconds.toNat else 0 }

lemma holds_encode {head : Head} {p : Packet} {k : Nat} :
    Holds p k head.encode ↔ Holds p k (Octets.ofUInt16 head.code)
      ∧ Holds p (k + 2) (Octets.ofUInt16 head.cls.code)
      ∧ Holds p (k + 4) (Octets.ofUInt32 head.seconds)
      ∧ Holds p (k + 8) (Octets.ofUInt16 head.length) := by
  rw [encode, holds_append, holds_append, holds_append, and_assoc, and_assoc]
  rfl

/-- A head stands behind the owner name that is read at a position. -/
structure Stands (head : Head) (p : Packet) (i : Nat) (name : Name) (k : Nat) : Prop where
  name_eq : Name.decoder p i = .ok (name, k)
  holds : Holds p k head.encode

variable {head : Head} {p : Packet} {i j k : Nat} {name : Name} {r : Record} {e : Error}

lemma Stands.add_le (h : head.Stands p i name k) : k + 10 ≤ p.size := by
  have hle := h.holds.length_le
  have hlength : head.encode.length = 10 := rfl
  rw [hlength, Decoder.remaining] at hle
  omega

/-- Where its head stands, a record is read as its data are. -/
lemma Stands.decoder_eq (h : head.Stands p i name k) :
    decoder p i = decoder.data head.code head.length.toNat p (k + 10) >>= fun r =>
      .ok (⟨name, head.cls, head.ttl, r.1⟩, r.2) := by
  obtain ⟨hcode, hcls, hseconds, hlength⟩ := holds_encode.mp h.holds
  have hcode : Decoder.uint16 p k = .ok (head.code, k + 2) := Decoder.reads_uint16 _ p k hcode
  have hcls : Decoder.recordClass p (k + 2) = .ok (head.cls, k + 4) :=
    reads_recordClass _ p _ hcls
  have hseconds : Decoder.seconds p (k + 4) = .ok (head.ttl, k + 8) := reads_seconds _ p _ hseconds
  have hlength : Decoder.uint16 p (k + 8) = .ok (head.length, k + 10) :=
    Decoder.reads_uint16 _ p _ hlength
  rw [decoder, Decoder.bind_of_ok h.name_eq, Decoder.bind_of_ok hcode, Decoder.bind_of_ok hcls,
    Decoder.bind_of_ok hseconds, Decoder.bind_of_ok hlength]
  exact Decoder.bind_apply _ _ p (k + 10)

/-- Every record that is read has a head. -/
lemma exists_stands (h : decoder p i = .ok (r, j)) :
    ∃ head : Head, ∃ k, head.Stands p i r.name k := by
  obtain ⟨name, k, hname, h⟩ := Decoder.bind_eq_ok h
  obtain ⟨code, _, hcode, h⟩ := Decoder.bind_eq_ok h
  obtain ⟨cls, _, hcls, h⟩ := Decoder.bind_eq_ok h
  obtain ⟨ttl, _, httl, h⟩ := Decoder.bind_eq_ok h
  obtain ⟨n, _, hn, httl⟩ := Decoder.bind_eq_ok httl
  cases httl
  obtain ⟨length, _, hlength, h⟩ := Decoder.bind_eq_ok h
  obtain ⟨resource, _, _, h⟩ := Decoder.bind_eq_ok h
  cases h
  obtain ⟨hcode', rfl⟩ := Decoder.holds_of_uint16 hcode
  obtain ⟨hcls', rfl⟩ := Decoder.holds_of_recordClass hcls
  obtain ⟨hn', rfl⟩ := Decoder.holds_of_uint32 hn
  obtain ⟨hlength', rfl⟩ := Decoder.holds_of_uint16 hlength
  exact ⟨⟨code, cls, n, length⟩, k, hname, holds_encode.mpr ⟨hcode', hcls', hn', hlength'⟩⟩

end Head

/-! ### The data of a record -/

variable {p : Packet} {i j : Nat} {code : UInt16}

/-- Data that are there take up their length, whether they are decoded or not. -/
lemma eq_add_of_present {length : Nat} {r : Resource}
    (h : present code length p i = .ok (r, j)) : j = i + length := by
  cases hcode : RecordType.ofCode? code.toNat with
  | some t =>
    simp only [present, hcode] at h
    exact Resource.eq_add_of_decoder h
  | none =>
    simp only [present, hcode] at h
    obtain ⟨data, k, hdata, h⟩ := Decoder.bind_eq_ok h
    cases h
    exact (Decoder.octets_eq_ok_iff.mp hdata).2.1

/-- Data of a type that is not decoded are the octets that stand there. -/
lemma present_of_unknown {data : Octets} (hcode : ∀ t : RecordType, t.code ≠ code)
    (h : Holds p i data) :
    present code data.length p i = .ok (.unknown code data, i + data.length) := by
  simp only [present, RecordType.ofCode?_eq_none fun t _ => hcode t]
  exact (Decoder.reads_octets data).bind_pure (Resource.unknown code) p i h

/-! ### How a record is framed -/

/-- What a record that begins at a position takes up. -/
structure IsFramed (p : Packet) (i : Nat) : Prop where
  stops : ∀ r j, decoder p i = .ok (r, j) → ∃ head : Head, ∃ k, head.Stands p i r.name k
    ∧ Name.EndsInPlace p i k ∧ j = k + 10 + head.length.toNat ∧ j ≤ p.size
  truncated_iff : ∀ (head : Head) name k, head.Stands p i name k → ∀ length remaining,
    decoder p i = .error (.truncatedRecord length remaining) ↔
      remaining < length ∧ length = head.length.toNat ∧ remaining = p.size - (k + 10)
  unknown : ∀ (head : Head) name k, head.Stands p i name k →
    (∀ t : RecordType, t.code ≠ head.code) → k + 10 + head.length.toNat ≤ p.size →
    ∃ data : Octets, data.length = head.length.toNat ∧ Holds p (k + 10) data
      ∧ decoder p i = .ok (⟨name, head.cls, head.ttl, .unknown head.code data⟩,
          k + 10 + head.length.toNat)
      ∧ ∀ n, Decoder.replicate (n + 1) decoder p i
          = (Decoder.replicate n decoder p (k + 10 + head.length.toNat)).map fun r =>
              (⟨name, head.cls, head.ttl, .unknown head.code data⟩ :: r.1, r.2)

variable {head : Head} {name : Name} {k : Nat} {r : Record}

lemma Head.Stands.eq_add (h : head.Stands p i name k) (hr : decoder p i = .ok (r, j)) :
    j = k + 10 + head.length.toNat ∧ j ≤ p.size := by
  rw [h.decoder_eq, data_eq_ite] at hr
  obtain ⟨⟨resource, j'⟩, hdata, hr⟩ := except_bind_eq_ok_iff.mp hr
  cases hr
  split_ifs at hdata with hshort
  obtain rfl := eq_add_of_present hdata
  have := h.add_le
  rw [Decoder.remaining] at hshort
  exact ⟨rfl, by omega⟩

lemma Head.Stands.truncated_iff (h : head.Stands p i name k) {length remaining : Nat} :
    decoder p i = .error (.truncatedRecord length remaining) ↔
      remaining < length ∧ length = head.length.toNat ∧ remaining = p.size - (k + 10) := by
  rw [h.decoder_eq, data_eq_ite, except_bind_eq_error_iff]
  constructor
  · rintro (herror | ⟨r, -, herror⟩)
    · split_ifs at herror with hshort
      · cases herror
        exact ⟨hshort, rfl, rfl⟩
      · exact (throws_present _ _ _ _ _ herror).elim
    · cases herror
  · rintro ⟨hshort, rfl, rfl⟩
    exact Or.inl (if_pos hshort)

lemma Head.Stands.unknown (h : head.Stands p i name k)
    (hcode : ∀ t : RecordType, t.code ≠ head.code) (hfits : k + 10 + head.length.toNat ≤ p.size) :
    ∃ data : Octets, data.length = head.length.toNat ∧ Holds p (k + 10) data
      ∧ decoder p i = .ok (⟨name, head.cls, head.ttl, .unknown head.code data⟩,
          k + 10 + head.length.toNat) := by
  obtain ⟨data, hlength, hdata⟩ := Packet.exists_holds hfits
  refine ⟨data, hlength, hdata, ?_⟩
  have hpresent := present_of_unknown hcode hdata
  have hremaining : ¬ Decoder.remaining p (k + 10) < data.length := Nat.not_lt.mpr hdata.length_le
  rw [h.decoder_eq, data_eq_ite, ← hlength, if_neg hremaining, hpresent]
  rfl

/-- A record ends where the length of its data says, it is cut off exactly if the packet ends in
front of that, and a record of a type that is not decoded is always read if it is not. -/
theorem isFramed (p : Packet) (i : Nat) : IsFramed p i where
  stops := by
    intro r j hr
    obtain ⟨head, k, h⟩ := Head.exists_stands hr
    exact ⟨head, k, h, (Name.exists_zero_of_decoder h.name_eq).1, h.eq_add hr⟩
  truncated_iff := fun _ _ _ h _ _ => h.truncated_iff
  unknown := by
    intro head name k h hcode hfits
    obtain ⟨data, hlength, hdata, hr⟩ := h.unknown hcode hfits
    exact ⟨data, hlength, hdata, hr, Decoder.replicate_succ_of_ok hr⟩

/-- A name, and a record that points to it. The record has a type that is not decoded, a time of
more than 31 bits, and data that would be a pointer at the end of the packet. -/
def bare : Packet := #[1, 0x61, 0, 0xC0, 0, 0, 41, 0, 1, 0x80, 0, 0, 0, 0, 2, 0xFF, 0xC0]

theorem isFramed_bare :
    Head.Stands ⟨41, .internet, 0x80000000, 2⟩ bare 3 ⟨[.text [0x61]]⟩ 5
      ∧ decoder bare 3 = .ok
          (⟨⟨[.text [0x61]]⟩, .internet, { seconds := 0 }, .unknown 41 [0xFF, 0xC0]⟩, 17) := by
  have hfront : Name.LeadsTo bare 3 [] 0 3 := .here
  have hrest : Name.LeadsTo bare 0 [.text [0x61]] 0 2 := .label (by decide) (by decide) .here
  have hname : Name.decoder bare 3 = .ok (⟨[.text [0x61]]⟩, 5) :=
    Name.decoder_of_pointer hfront ⟨by decide, by decide⟩ (by decide) hrest (by decide) rfl
  have hstands : Head.Stands ⟨41, .internet, 0x80000000, 2⟩ bare 3 ⟨[.text [0x61]]⟩ 5 :=
    ⟨hname, by decide⟩
  obtain ⟨data, hlength, hdata, hr, -⟩ :=
    (isFramed bare 3).unknown _ _ _ hstands (by intro t; cases t <;> decide) (by decide)
  have hoctets : data = [0xFF, 0xC0] := by
    rw [← hdata.extract_eq, hlength]
    rfl
  rw [hoctets] at hr
  exact ⟨hstands, hr⟩

end Record

end StubResolver
