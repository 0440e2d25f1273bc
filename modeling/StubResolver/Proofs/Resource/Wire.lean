import StubResolver.Proofs.Name.Wire
import StubResolver.Proofs.Resource.Mailbox
import StubResolver.Resource.Wire

/-!
# Reading records

A record is read back from its encoding, except that its times are cut to the whole seconds that
31 bits hold, and that its mailboxes are read from the names that they were written as.
-/

namespace StubResolver

open Packet

/-! ### What is sent -/

/-- The whole seconds of a time, as far as 31 bits hold them. -/
def Duration.clamp (d : Duration) : Duration := { seconds := min d.seconds maxSeconds }

/-- The start of a zone with its times as they are sent. -/
def Authority.clamp (s : Authority) : Authority :=
  { s with
    refresh := s.refresh.clamp
    retry := s.retry.clamp
    expire := s.expire.clamp
    minimum := s.minimum.clamp }

/-- The start of a zone as it is read back after it was written. -/
def Authority.reread (s : Authority) : Authority := { s.clamp with mailbox := s.mailbox.reread }

namespace Resource

/-- The resource with its times as they are sent. -/
def clamp : Resource → Resource
  | soa s => soa s.clamp
  | r => r

/-- The resource as it is read back after it was written. -/
def reread : Resource → Resource
  | soa s => soa s.reread
  | r => r

/-- The mailbox among data, if there is one. -/
def mailbox? : Resource → Option Mailbox
  | soa s => some s.mailbox
  | _ => none

/-- A resource that the wire can carry, if its local part and its data are not too long. -/
def IsValid : Resource → Prop
  | ns server => server.IsValid
  | cname target => target.IsValid
  | mx _ exchange => exchange.IsValid
  | soa s => s.primary.IsValid ∧ s.mailbox.domain.IsValid
  | txt strings => ∀ s ∈ strings, s.length ≤ maxStringLength
  | unknown code _ => ∀ t ∈ RecordType.all, t.code ≠ code
  | _ => True

instance : DecidablePred IsValid := fun r => by
  cases r <;> unfold IsValid <;> infer_instance

end Resource

namespace Record

/-- The record with its times as they are sent. -/
def clamp (r : Record) : Record := { r with ttl := r.ttl.clamp, resource := r.resource.clamp }

/-- The record as it is read back after it was written. -/
def reread (r : Record) : Record := { r with ttl := r.ttl.clamp, resource := r.resource.reread }

/-- A record that the wire can carry, if its local part and its data are not too long. -/
def IsValid (r : Record) : Prop := r.name.IsValid ∧ r.resource.IsValid

instance : DecidablePred IsValid := fun r => by unfold IsValid; infer_instance

end Record

/-- Times apart, data change where they are read back only in their mailbox. -/
lemma Resource.reread_eq_clamp {r : Resource} (h : ∀ m ∈ r.mailbox?, m.reread = m) :
    r.reread = r.clamp := by
  cases r with
  | soa s =>
    have hmailbox : s.mailbox.reread = s.mailbox := h s.mailbox rfl
    simp [reread, clamp, Authority.reread, hmailbox]
    rfl
  | _ => rfl

lemma Record.reread_eq_clamp {r : Record} (h : ∀ m ∈ r.resource.mailbox?, m.reread = m) :
    r.reread = r.clamp := by
  rw [reread, clamp, Resource.reread_eq_clamp h]

/-- Data whose times can be sent are the same where they are read back exactly if their mailbox
is. -/
lemma Resource.fold_reread_eq_iff {r : Resource} (h : r.clamp = r) :
    r.reread.fold = r.fold ↔ ∀ m ∈ r.mailbox?, m.reread.fold = m.fold := by
  cases r with
  | soa s =>
    have hclamp : s.clamp = s := by simpa [clamp] using h
    have hreread : s.reread = { s with mailbox := s.mailbox.reread } := by
      rw [Authority.reread, hclamp]
    simp [reread, fold, mailbox?, hreread]
  | _ => simp [reread, mailbox?]

lemma Record.fold_reread_eq_iff {r : Record} (h : r.clamp = r) :
    r.reread.fold = r.fold ↔ ∀ m ∈ r.resource.mailbox?, m.reread.fold = m.fold := by
  have httl : r.ttl.clamp = r.ttl := congrArg Record.ttl h
  have hresource : r.resource.clamp = r.resource := congrArg Record.resource h
  rw [← Resource.fold_reread_eq_iff hresource]
  simp [reread, fold, httl]

/-! ### Times and classes -/

lemma reads_encodeSeconds (d : Duration) : Decoder.seconds.Reads (encodeSeconds d) d.clamp := by
  have hmin : min d.seconds maxSeconds ≤ maxSeconds := Nat.min_le_right _ _
  have hn : (UInt32.ofNat (min d.seconds maxSeconds)).toNat = min d.seconds maxSeconds := by
    refine UInt32.toNat_ofNat_of_lt' (Nat.lt_of_le_of_lt hmin ?_)
    decide
  have h := (Decoder.reads_uint32 (.ofNat (min d.seconds maxSeconds))).bind_pure
    fun n => ({ seconds := if n.toNat ≤ maxSeconds then n.toNat else 0 } : Duration)
  rwa [hn, if_pos hmin] at h

lemma reads_recordClass (c : RecordClass) :
    Decoder.recordClass.Reads (Octets.ofUInt16 c.code) c := by
  intro p i h
  rw [Decoder.recordClass, Decoder.bind_of_ok (Decoder.reads_uint16 c.code p i h)]
  simp only [RecordClass.ofCode?_code]
  rfl

namespace Resource

/-! ### Strings -/

lemma stringsOnto_of_holds {strings encoded : List Octets}
    (h : List.Forall₂ (fun s e => encodeString s = .ok e) strings encoded) {p : Packet} {i : Nat}
    (hp : Holds p i encoded.flatten) (done : List Octets) :
    stringsOnto (i + encoded.flatten.length) done p i
      = .ok (done.reverse ++ strings, i + encoded.flatten.length) := by
  induction h generalizing i done with
  | nil =>
    rw [stringsOnto]
    simp
  | @cons s e strings encoded hs _ ih =>
    unfold encodeString at hs
    split_ifs at hs with hmax
    cases hs
    unfold maxStringLength at hmax
    rw [List.flatten_cons] at hp ⊢
    obtain ⟨hs, hrest⟩ := holds_append.mp hp
    obtain ⟨hn, hs⟩ := holds_cons.mp hs
    have hlen : (UInt8.ofNat s.length).toNat = s.length :=
      UInt8.toNat_ofNat_of_lt' (Nat.lt_of_le_of_lt (Nat.le_of_not_lt hmax) (by decide))
    rw [stringsOnto, if_pos (by simp), Decoder.octet_of_getElem? hn]
    dsimp only
    rw [hlen, Decoder.reads_octets s p (i + 1) hs]
    dsimp only
    have hstop : i + ((UInt8.ofNat s.length :: s) ++ encoded.flatten).length
        = i + 1 + s.length + encoded.flatten.length := by
      simp only [List.length_append, List.length_cons]
      omega
    have hrest : Holds p (i + 1 + s.length) encoded.flatten := by
      rwa [List.length_cons, show i + (s.length + 1) = i + 1 + s.length by omega] at hrest
    rw [hstop, ih hrest (s :: done)]
    simp

/-! ### Data -/

lemma reads_authority {s : Authority} {data : Octets} (hs : (soa s).IsValid)
    (h : (soa s).encode = .ok data) : authority.Reads data s.reread := by
  obtain ⟨hprimary, hdomain⟩ := hs
  obtain ⟨mailbox, hmailbox, h⟩ := except_bind_eq_ok_iff.mp h
  cases h
  rw [Mailbox.toName_eq_ite] at hmailbox
  split_ifs at hmailbox with hlocal
  cases hmailbox
  have hname := Mailbox.isValid_nameForm hdomain (Nat.le_of_not_lt hlocal)
  simp only [List.append_assoc]
  exact (Name.reads_encode hprimary).bind ((Name.reads_encode hname).bind
    ((Decoder.reads_uint32 s.serial).bind ((reads_encodeSeconds s.refresh).bind
      ((reads_encodeSeconds s.retry).bind ((reads_encodeSeconds s.expire).bind
        ((reads_encodeSeconds s.minimum).bind_pure _))))))

/-- Data are read back from their encoding. -/
lemma reads_content {r : Resource} {t : RecordType} {data : Octets} (hr : r.IsValid)
    (ht : r.type? = some t) (h : r.encode = .ok data) :
    (content t data.length).Reads data r.reread := by
  cases r with
  | a ip =>
    cases ht
    cases h
    rw [content, if_neg (by simp)]
    exact (Decoder.reads_vector ip.octets).bind_pure _
  | aaaa ip =>
    cases ht
    cases h
    rw [content, if_neg (by simp)]
    exact (Decoder.reads_vector ip.octets).bind_pure _
  | ns server =>
    cases ht
    cases h
    exact (Name.reads_encode hr).bind_pure _
  | cname target =>
    cases ht
    cases h
    exact (Name.reads_encode hr).bind_pure _
  | mx preference exchange =>
    cases ht
    cases h
    exact (Decoder.reads_uint16 preference).bind ((Name.reads_encode hr).bind_pure _)
  | soa s =>
    cases ht
    exact (reads_authority hr h).bind_pure _
  | txt strings =>
    cases ht
    obtain ⟨encoded, hencoded, h⟩ := except_bind_eq_ok_iff.mp h
    cases h
    have hread : (Resource.strings encoded.flatten.length).Reads encoded.flatten strings :=
      fun p i hp => stringsOnto_of_holds (mapM_eq_ok_iff.mp hencoded) hp []
    exact hread.bind_pure _
  | unknown code data => cases ht

lemma typeCode_of_type? {r : Resource} {t : RecordType} (ht : r.type? = some t) :
    r.typeCode = t.code := by
  cases r <;> cases ht <;> rfl

/-- Data are read back where their length is known. -/
lemma reads_decoder {r : Resource} {t : RecordType} {data : Octets} (hr : r.IsValid)
    (ht : r.type? = some t) (h : r.encode = .ok data) :
    (decoder r.typeCode data.length).Reads data r.reread := by
  intro p i hp
  have hcontent := reads_content hr ht h p i hp
  simp only [decoder, typeCode_of_type? ht, RecordType.ofCode?_code]
  simp only [bind, Decoder.position, hcontent, Nat.add_sub_cancel_left, if_true]
  rfl

end Resource

lemma RecordType.ofCode?_eq_none {code : UInt16} (h : ∀ t ∈ RecordType.all, t.code ≠ code) :
    RecordType.ofCode? code.toNat = none := by
  rw [RecordType.ofCode?, List.find?_eq_none]
  intro t ht
  simpa using mt UInt16.toNat_inj.mp (h t ht)

namespace Record

/-! ### Records -/

lemma decoder_of_unknown {code : UInt16} {length : Nat} {p : Packet} {i : Nat}
    (h : ∀ t ∈ RecordType.all, t.code ≠ code) :
    Resource.decoder code length p i = .error (.unsupportedRecordType code) := by
  simp only [Resource.decoder, RecordType.ofCode?_eq_none h]
  rfl

/-- Data are read back whatever their type is. -/
lemma reads_data {r : Resource} {data : Octets} (hr : r.IsValid) (h : r.encode = .ok data) :
    Decoder.Reads (decoder.data r.typeCode data.length) data r.reread := by
  intro p i hp
  have hremaining := hp.length_le
  cases ht : r.type? with
  | some t =>
    have hread := Resource.reads_decoder hr ht h p i hp
    simp only [decoder.data, if_neg (Nat.not_lt.mpr hremaining), hread]
  | none =>
    cases r with
    | unknown code octets =>
      cases h
      have hread := (Decoder.reads_octets data).bind_pure (Resource.unknown code) p i hp
      simp only [decoder.data, if_neg (Nat.not_lt.mpr hremaining), Resource.typeCode,
        decoder_of_unknown hr]
      exact hread
    | _ => cases ht

/-- A record is read back from its encoding. -/
lemma reads_decoder {r : Record} {octets : Octets} (hr : r.IsValid) (h : r.encode = .ok octets) :
    decoder.Reads octets r.reread := by
  obtain ⟨data, hdata, h⟩ := except_bind_eq_ok_iff.mp h
  split_ifs at h with hmax
  cases h
  have hlen : (UInt16.ofNat data.length).toNat = data.length :=
    UInt16.toNat_ofNat_of_lt' (Nat.lt_succ_of_le (Nat.le_of_not_lt hmax))
  have hread := reads_data hr.2 hdata
  rw [← hlen] at hread
  simp only [List.append_assoc]
  exact (Name.reads_encode hr.1).bind ((Decoder.reads_uint16 _).bind
    ((reads_recordClass r.cls).bind ((reads_encodeSeconds r.ttl).bind
      ((Decoder.reads_uint16 _).bind (hread.bind_pure _)))))

end Record

end StubResolver
