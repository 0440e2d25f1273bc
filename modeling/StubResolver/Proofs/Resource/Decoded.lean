import StubResolver.Proofs.Resource.Wire

/-!
# What is read as a record

Every record that is read from a packet can be carried by the wire as far as its names, strings and
type are concerned, its times are whole seconds of 31 bits, and no local part of a mailbox has an
at sign. Its data fail to be read only for their form, unless their type is not decoded.
-/

namespace StubResolver

lemma Duration.clamp_eq_self_iff {d : Duration} :
    d.clamp = d ↔ d.seconds ≤ maxSeconds ∧ d.nanoseconds = .zero := by
  obtain ⟨seconds, nanoseconds⟩ := d
  have hmin : min seconds maxSeconds = seconds ↔ seconds ≤ maxSeconds := by omega
  simp only [clamp, mk.injEq, hmin, eq_comm (a := Nanoseconds.zero)]

lemma yields_seconds : Decoder.seconds.Yields fun d => d.clamp = d := by
  refine Decoder.yields_bind fun n => Decoder.yields_pure ?_
  rw [Duration.clamp_eq_self_iff]
  dsimp only
  split_ifs with h <;> simp [h]

namespace Resource

/-- A resource as it can be read from a packet. -/
structure IsRead (r : Resource) : Prop where
  isValid : r.IsValid
  clamp_eq : r.clamp = r
  atSign_notMem : ∀ m ∈ r.mailbox?, '@' ∉ m.localPart.toList
  length_le : ∀ code data, r = unknown code data → data.length ≤ Record.maxDataLength

/-! ### Data -/

lemma length_le_of_stringsOnto {stop : Nat} {done : List Octets} {p : Packet} {i : Nat}
    {r : List Octets × Nat} (hdone : ∀ s ∈ done, s.length ≤ maxStringLength)
    (h : stringsOnto stop done p i = .ok r) : ∀ s ∈ r.1, s.length ≤ maxStringLength := by
  fun_induction stringsOnto stop done p i with
  | case1 => cases h
  | case2 => cases h
  | case3 done i _ n j hn s k hs ih =>
    have hlen := Decoder.yields_octets _ p _ s k hs
    have := n.toNat_lt
    refine ih (List.forall_mem_cons.mpr ⟨?_, hdone⟩) h
    unfold maxStringLength
    omega
  | case4 =>
    cases h
    intro s hs
    exact hdone s (List.mem_reverse.mp hs)

lemma yields_strings (length : Nat) :
    (strings length).Yields fun ss => ∀ s ∈ ss, s.length ≤ maxStringLength :=
  fun _ _ _ _ h => length_le_of_stringsOnto (by simp) h

lemma yields_authority : authority.Yields fun s => (soa s).IsRead := by
  refine Name.yields_decoder.bind fun primary hprimary => ?_
  refine Name.yields_decoder.bind fun mailbox hmailbox => ?_
  refine Decoder.yields_bind fun serial => ?_
  refine yields_seconds.bind fun refresh hrefresh => ?_
  refine yields_seconds.bind fun retry hretry => ?_
  refine yields_seconds.bind fun expire hexpire => ?_
  refine yields_seconds.bind_pure fun minimum hminimum => ?_
  refine ⟨⟨hprimary, Mailbox.isValid_domain_ofName hmailbox⟩, ?_, ?_, by simp⟩
  · simp [clamp, Authority.clamp, hrefresh, hretry, hexpire, hminimum]
  · rintro m ⟨⟩
    exact Mailbox.atSign_notMem_ofName mailbox

/-- Data that hold neither a time nor a mailbox are read if the wire can carry them. -/
lemma isRead_of_isValid {r : Resource} (hr : r.IsValid) (hclamp : r.clamp = r)
    (hmailbox : r.mailbox? = none) (htype : r.type? ≠ none) : r.IsRead := by
  refine ⟨hr, hclamp, by simp [hmailbox], ?_⟩
  rintro code data rfl
  exact absurd rfl htype

lemma yields_content (t : RecordType) (length : Nat) : (content t length).Yields IsRead := by
  cases t with
  | a =>
    rw [content]
    split_ifs
    · exact Decoder.yields_fail _
    · exact Decoder.yields_bind fun ip =>
        Decoder.yields_pure (isRead_of_isValid trivial rfl rfl (by simp [type?]))
  | aaaa =>
    rw [content]
    split_ifs
    · exact Decoder.yields_fail _
    · exact Decoder.yields_bind fun ip =>
        Decoder.yields_pure (isRead_of_isValid trivial rfl rfl (by simp [type?]))
  | ns =>
    exact Name.yields_decoder.bind_pure fun n hn =>
      isRead_of_isValid hn rfl rfl (by simp [type?])
  | cname =>
    exact Name.yields_decoder.bind_pure fun n hn =>
      isRead_of_isValid hn rfl rfl (by simp [type?])
  | mx =>
    exact Decoder.yields_bind fun preference => Name.yields_decoder.bind_pure fun n hn =>
      isRead_of_isValid hn rfl rfl (by simp [type?])
  | soa => exact yields_authority.bind_pure fun s hs => hs
  | txt =>
    exact (yields_strings length).bind_pure fun strings hstrings =>
      isRead_of_isValid hstrings rfl rfl (by simp [type?])

lemma yields_decoder (code : UInt16) (length : Nat) : (decoder code length).Yields IsRead := by
  unfold decoder
  split
  · exact Decoder.yields_fail _
  next t _ =>
    refine Decoder.yields_bind fun start => (yields_content t length).bind fun r hr => ?_
    refine Decoder.yields_bind fun stop => ?_
    split_ifs
    · exact Decoder.yields_pure hr
    · exact Decoder.yields_fail _

/-! ### Errors -/

lemma throws_seconds : Decoder.seconds.Throws Error.IsMalformed :=
  (Decoder.throws_uint32 trivial).bind_pure _

lemma isMalformed_of_stringsOnto {stop : Nat} {done : List Octets} {p : Packet} {i : Nat}
    {e : Error} (h : stringsOnto stop done p i = .error e) : e.IsMalformed := by
  fun_induction stringsOnto stop done p i with
  | case1 done i _ e' he =>
    cases h
    exact Decoder.throws_octet trivial p i _ he
  | case2 done i _ n j hn e' he =>
    cases h
    exact Decoder.throws_octets trivial _ p _ _ he
  | case3 done i _ n j hn s k hs ih => exact ih h
  | case4 => cases h

lemma throws_strings (length : Nat) : (strings length).Throws Error.IsMalformed :=
  fun _ _ _ h => isMalformed_of_stringsOnto h

lemma throws_authority : authority.Throws Error.IsMalformed := by
  refine Name.throws_decoder.bind fun primary => Name.throws_decoder.bind fun mailbox => ?_
  refine (Decoder.throws_uint32 trivial).bind fun serial => ?_
  refine throws_seconds.bind fun refresh => throws_seconds.bind fun retry => ?_
  exact throws_seconds.bind fun expire => throws_seconds.bind_pure _

lemma throws_content (t : RecordType) (length : Nat) :
    (content t length).Throws Error.IsMalformed := by
  cases t with
  | a =>
    rw [content]
    split_ifs
    · exact Decoder.throws_fail trivial
    · exact (Decoder.throws_vector trivial 4).bind_pure _
  | aaaa =>
    rw [content]
    split_ifs
    · exact Decoder.throws_fail trivial
    · exact (Decoder.throws_vector trivial 16).bind_pure _
  | ns => exact Name.throws_decoder.bind_pure _
  | cname => exact Name.throws_decoder.bind_pure _
  | mx => exact (Decoder.throws_uint16 trivial).bind fun _ => Name.throws_decoder.bind_pure _
  | soa => exact throws_authority.bind_pure _
  | txt => exact (throws_strings length).bind_pure _

lemma throws_decoder {code : UInt16} {t : RecordType}
    (ht : RecordType.ofCode? code.toNat = some t) (length : Nat) :
    (decoder code length).Throws Error.IsMalformed := by
  simp only [decoder, ht]
  refine Decoder.Throws.bind (by rintro p i e ⟨⟩) fun start => ?_
  refine (throws_content t length).bind fun r => ?_
  refine Decoder.Throws.bind (by rintro p i e ⟨⟩) fun stop => ?_
  split_ifs
  · exact Decoder.throws_pure r
  · exact Decoder.throws_fail trivial

end Resource

namespace Record

/-- A record as it can be read from a packet. -/
structure IsRead (r : Record) : Prop where
  name_isValid : r.name.IsValid
  ttl_clamp_eq : r.ttl.clamp = r.ttl
  resource_isRead : r.resource.IsRead

/-- Reads data that are there. They are decoded if their type is, and kept otherwise. -/
def present (code : UInt16) (length : Nat) : Decoder Resource :=
  match RecordType.ofCode? code.toNat with
  | some _ => Resource.decoder code length
  | none => Decoder.octets length >>= fun data => pure (.unknown code data)

lemma data_eq_ite (code : UInt16) (length : Nat) (p : Packet) (i : Nat) :
    decoder.data code length p i =
      if Decoder.remaining p i < length then
        .error (.truncatedRecord length (Decoder.remaining p i))
      else present code length p i := by
  unfold decoder.data present
  split_ifs
  · rfl
  · cases hcode : RecordType.ofCode? code.toNat with
    | none =>
      simp only [Resource.decoder, hcode]
      rfl
    | some t =>
      split
      next code' hread => exact (Resource.throws_decoder hcode length p i _ hread).elim
      next => rfl

lemma yields_present (code length : UInt16) :
    (present code length.toNat).Yields Resource.IsRead := by
  cases hcode : RecordType.ofCode? code.toNat with
  | some t =>
    simp only [present, hcode]
    exact Resource.yields_decoder code _
  | none =>
    simp only [present, hcode]
    refine (Decoder.yields_octets length.toNat).bind_pure fun data hlen => ?_
    have hne : ∀ t ∈ RecordType.all, t.code ≠ code := by
      rintro t - rfl
      rw [RecordType.ofCode?_code] at hcode
      cases hcode
    refine ⟨hne, rfl, by simp [Resource.mailbox?], ?_⟩
    rintro code data ⟨⟩
    rw [hlen]
    exact Nat.le_of_lt_succ length.toNat_lt

lemma yields_data (code length : UInt16) :
    Decoder.Yields (decoder.data code length.toNat) Resource.IsRead := by
  intro p i r j h
  rw [data_eq_ite] at h
  split_ifs at h
  exact yields_present code length p i r j h

lemma yields_decoder : decoder.Yields IsRead := by
  refine Name.yields_decoder.bind fun name hname => Decoder.yields_bind fun code => ?_
  refine Decoder.yields_bind fun cls => yields_seconds.bind fun ttl httl => ?_
  refine Decoder.yields_bind fun length => ?_
  exact (yields_data code length).bind_pure fun resource hresource => ⟨hname, httl, hresource⟩

lemma throws_recordClass : Decoder.recordClass.Throws Error.IsMalformed := by
  refine (Decoder.throws_uint16 trivial).bind fun code => ?_
  split
  · exact Decoder.throws_pure _
  · exact Decoder.throws_fail trivial

lemma throws_present (code : UInt16) (length : Nat) :
    (present code length).Throws Error.IsMalformed := by
  cases hcode : RecordType.ofCode? code.toNat with
  | some t =>
    simp only [present, hcode]
    exact Resource.throws_decoder hcode length
  | none =>
    simp only [present, hcode]
    exact (Decoder.throws_octets trivial length).bind_pure _

lemma throws_data (code : UInt16) (length : Nat) :
    Decoder.Throws (decoder.data code length) Error.IsUnreadable := by
  intro p i e h
  rw [data_eq_ite] at h
  split_ifs at h
  · cases h
    trivial
  · exact (throws_present code length p i e h).isUnreadable

lemma throws_decoder : decoder.Throws Error.IsUnreadable := by
  have himp {α : Type} {d : Decoder α} (hd : d.Throws Error.IsMalformed) :
      d.Throws Error.IsUnreadable := hd.imp fun _ => Error.IsMalformed.isUnreadable
  refine (himp Name.throws_decoder).bind fun name => ?_
  refine (Decoder.throws_uint16 trivial).bind fun code => ?_
  refine (himp throws_recordClass).bind fun cls => (himp Resource.throws_seconds).bind fun ttl => ?_
  refine (Decoder.throws_uint16 trivial).bind fun length => ?_
  exact (throws_data code length.toNat).bind_pure _

lemma isValid_of_isRead {r : Record} (h : r.IsRead) : r.IsValid :=
  ⟨h.name_isValid, h.resource_isRead.isValid⟩

lemma clamp_eq_of_isRead {r : Record} (h : r.IsRead) : r.clamp = r := by
  rw [clamp, h.ttl_clamp_eq, h.resource_isRead.clamp_eq]

end Record

end StubResolver
