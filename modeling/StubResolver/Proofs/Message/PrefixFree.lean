import Mathlib.Tactic.Common
import StubResolver.Proofs.Message.Wire
import StubResolver.Proofs.Wire.Locality

/-!
# Where a message ends

A message says itself where it ends. What goes on behind a message is left over, and what breaks
off in a message lacks octets, so that neither stands for a message.
-/

namespace StubResolver

open Decoder

/-! ### Names -/

namespace Name

variable {p : Packet} {i hops : Nat} {resume : Option Nat} {done : List Label}

lemma element_append (p q : Packet) (i : Nat) :
    AgreesUnlessShort (element p i) (element (p ++ q) i) := by
  cases hmark : p[i]? with
  | none =>
    simp only [element, hmark]
    exact .of_short trivial
  | some mark =>
    simp only [element, hmark, Packet.getElem?_append_of_eq_some hmark q]
    split_ifs
    · exact .refl _
    · exact ((isLocal_octets _).stable p q (i + 1)).bind fun _ => .refl _
    · exact (isLocal_octet.stable p q (i + 1)).bind fun _ =>
        ((isLocal_octets _).stable p q (i + 2)).bind fun _ => .refl _
    · exact (isLocal_octet.stable p q (i + 1)).bind fun _ => .refl _
    · exact .refl _

/-- A walk ends inside of the packet. -/
lemma walk_inside {n : Name} {j : Nat} (hresume : ∀ k ∈ resume, k ≤ p.size)
    (h : walk p i hops resume done = .ok (n, j)) : j ≤ p.size := by
  fun_induction walk p i hops resume done with
  | case1 => cases h
  | case2 i hops resume done helement =>
    cases h
    have hi := lt_size_of_element helement
    cases resume with
    | none => exact hi
    | some k => exact hresume k rfl
  | case3 i hops resume done l helement _ _ ih => exact ih hresume h
  | case4 => cases h
  | case5 => cases h
  | case6 i hops resume done target helement _ _ ih =>
    refine ih ?_ h
    rintro k ⟨⟩
    cases resume with
    | none => exact le_size_of_pointer helement
    | some k => exact hresume k rfl

/-- A walk goes on in the same way where the packet goes on. -/
lemma walk_append (p q : Packet) (i hops : Nat) (resume : Option Nat) (done : List Label) :
    AgreesUnlessShort (walk p i hops resume done) (walk (p ++ q) i hops resume done) := by
  fun_induction walk p i hops resume done with
  | case1 i hops resume done e helement =>
    rcases element_append p q i with ⟨e', he', hshort⟩ | heq
    · obtain rfl : e = e' := Except.error.inj (helement.symm.trans he')
      exact .of_short hshort
    · rw [walk_of_error (heq.trans helement)]
      exact .refl _
  | case2 i hops resume done helement =>
    rw [walk_of_stop ((element_append p q i).eq_ok helement)]
    exact .refl _
  | case3 i hops resume done l helement _ _ ih =>
    rw [walk_of_label ((element_append p q i).eq_ok helement)]
    exact ih
  | case4 i hops resume done target helement hforward =>
    rw [walk_of_pointer ((element_append p q i).eq_ok helement), if_pos hforward]
    exact .refl _
  | case5 i hops resume done target helement hforward hmany =>
    rw [walk_of_pointer ((element_append p q i).eq_ok helement), if_neg hforward, if_pos hmany]
    exact .refl _
  | case6 i hops resume done target helement hforward hmany ih =>
    rw [walk_of_pointer ((element_append p q i).eq_ok helement), if_neg hforward, if_neg hmany]
    exact ih

lemma isLocal_decoder : decoder.IsLocal where
  inside _ _ _ _ _ h := walk_inside (by simp) h
  stable p q i := walk_append p q i 0 none []

end Name

/-! ### Records -/

lemma isLocal_seconds : Decoder.seconds.IsLocal := isLocal_uint32.bind_pure _

lemma isLocal_recordClass : recordClass.IsLocal := by
  refine isLocal_uint16.bind fun code => ?_
  split
  · exact isLocal_pure _
  · exact isLocal_fail _

namespace Resource

variable {p : Packet} {i j stop : Nat} {done : List Octets}

lemma stringsOnto_inside {ss : List Octets} (hi : i ≤ p.size)
    (h : stringsOnto stop done p i = .ok (ss, j)) : j ≤ p.size := by
  fun_induction stringsOnto stop done p i with
  | case1 => cases h
  | case2 => cases h
  | case3 done i _ n k hn s l hs ih =>
    have hi := isLocal_octet.inside p i n k hi hn
    obtain ⟨-, rfl⟩ := octet_eq_ok hn
    have hl := (isLocal_octets _).inside p (i + 1) s l hi hs
    obtain ⟨-, rfl, -⟩ := octets_eq_ok_iff.mp hs
    exact ih hl h
  | case4 =>
    cases h
    exact hi

lemma stringsOnto_of_lt (h : i < stop) :
    stringsOnto stop done p i = octet p i >>= fun n =>
      octets n.1.toNat p (i + 1) >>= fun s =>
        stringsOnto stop (s.1 :: done) p (i + 1 + n.1.toNat) := by
  rw [stringsOnto, if_pos h]
  cases octet p i with
  | error e => rfl
  | ok n =>
    dsimp only [ok_bind]
    cases octets n.1.toNat p (i + 1) <;> rfl

lemma stringsOnto_of_le (h : stop ≤ i) : stringsOnto stop done p i = .ok (done.reverse, i) := by
  rw [stringsOnto, if_neg (Nat.not_lt.mpr h)]

lemma stringsOnto_append (p q : Packet) (i stop : Nat) (done : List Octets) :
    AgreesUnlessShort (stringsOnto stop done p i) (stringsOnto stop done (p ++ q) i) := by
  induction hleft : stop - i using Nat.strong_induction_on generalizing i done with
  | h left ih =>
    by_cases hi : i < stop
    · rw [stringsOnto_of_lt hi, stringsOnto_of_lt hi]
      refine (isLocal_octet.stable p q i).bind fun n => ?_
      refine ((isLocal_octets _).stable p q (i + 1)).bind fun s => ?_
      exact ih _ (by omega) _ (s.1 :: done) rfl
    · rw [stringsOnto_of_le (Nat.le_of_not_lt hi), stringsOnto_of_le (Nat.le_of_not_lt hi)]
      exact .refl _

lemma isLocal_strings (length : Nat) : (strings length).IsLocal where
  inside _ _ _ _ hi h := stringsOnto_inside hi h
  stable p q i := stringsOnto_append p q i (i + length) []

lemma isLocal_authority : authority.IsLocal := by
  refine Name.isLocal_decoder.bind fun primary => Name.isLocal_decoder.bind fun mailbox => ?_
  refine isLocal_uint32.bind fun serial => isLocal_seconds.bind fun refresh => ?_
  refine isLocal_seconds.bind fun retry => isLocal_seconds.bind fun expire => ?_
  exact isLocal_seconds.bind_pure _

lemma isLocal_content (t : RecordType) (length : Nat) : (content t length).IsLocal := by
  cases t with
  | a =>
    rw [content]
    split_ifs
    · exact isLocal_fail _
    · exact (isLocal_vector 4).bind_pure _
  | aaaa =>
    rw [content]
    split_ifs
    · exact isLocal_fail _
    · exact (isLocal_vector 16).bind_pure _
  | ns => exact Name.isLocal_decoder.bind_pure _
  | cname => exact Name.isLocal_decoder.bind_pure _
  | mx => exact isLocal_uint16.bind fun preference => Name.isLocal_decoder.bind_pure _
  | soa => exact isLocal_authority.bind_pure _
  | txt => exact (isLocal_strings length).bind_pure _

lemma isLocal_decoder (code : UInt16) (length : Nat) : (decoder code length).IsLocal := by
  unfold decoder
  split
  · exact isLocal_fail _
  · refine isLocal_position.bind fun start => (isLocal_content _ length).bind fun r => ?_
    refine isLocal_position.bind fun stop => ?_
    split_ifs
    · exact isLocal_pure _
    · exact isLocal_fail _

end Resource

namespace Record

lemma isLocal_present (code : UInt16) (length : Nat) : (present code length).IsLocal := by
  unfold present
  split
  · exact Resource.isLocal_decoder code length
  · exact (isLocal_octets length).bind_pure _

lemma isLocal_data (code : UInt16) (length : Nat) :
    Decoder.IsLocal (decoder.data code length) where
  inside p i r j hi h := by
    rw [data_eq_ite] at h
    split_ifs at h
    exact (isLocal_present code length).inside p i r j hi h
  stable p q i := by
    rw [data_eq_ite, data_eq_ite]
    by_cases hshort : remaining p i < length
    · rw [if_pos hshort]
      exact .of_short trivial
    · -- More remains of the packet that goes on.
      have hmore : ¬ remaining (p ++ q) i < length := by
        simp only [remaining, Array.size_append] at hshort ⊢
        omega
      rw [if_neg hshort, if_neg hmore]
      exact (isLocal_present code length).stable p q i

lemma isLocal_decoder : decoder.IsLocal := by
  refine Name.isLocal_decoder.bind fun name => isLocal_uint16.bind fun code => ?_
  refine isLocal_recordClass.bind fun cls => isLocal_seconds.bind fun ttl => ?_
  exact isLocal_uint16.bind fun length => (isLocal_data code length.toNat).bind_pure _

end Record

/-! ### Messages -/

lemma Question.isLocal_decoder : decoder.IsLocal := by
  refine Name.isLocal_decoder.bind fun name => IsLocal.bind ?_ fun type => ?_
  · refine isLocal_uint16.bind fun code => ?_
    split
    · exact isLocal_pure _
    · exact isLocal_fail _
  · exact isLocal_recordClass.bind_pure _

lemma Header.isLocal_decoder : decoder.IsLocal := by
  refine isLocal_uint16.bind fun id => isLocal_octet.bind fun first => IsLocal.bind ?_ fun o => ?_
  · unfold decoder.opcode
    split
    · exact isLocal_pure _
    · exact isLocal_fail _
  · refine isLocal_octet.bind fun second => IsLocal.bind_pure ?_ _
    unfold decoder.responseCode
    split
    · exact isLocal_pure _
    · exact isLocal_fail _

namespace Message

variable {m : Message} {octets octets' : Octets}

/-- Reads a message up to its last entry. -/
def sections : Decoder Message := do
  let header ← Header.decoder
  let questionCount ← uint16
  let answerCount ← uint16
  let authorityCount ← uint16
  let additionalCount ← uint16
  let questions ← replicate questionCount.toNat Question.decoder
  let answers ← replicate answerCount.toNat Record.decoder
  let authorities ← replicate authorityCount.toNat Record.decoder
  let additionals ← replicate additionalCount.toNat Record.decoder
  return { header, questions, answers, authorities, additionals }

lemma decoder_eq_sections_bind :
    decoder = sections >>= fun m => decoder.atEnd >>= fun _ => pure m := by
  simp only [decoder, sections, bind_assoc, pure_bind]

lemma isLocal_sections : sections.IsLocal := by
  refine Header.isLocal_decoder.bind fun header => isLocal_uint16.bind fun n₁ => ?_
  refine isLocal_uint16.bind fun n₂ => isLocal_uint16.bind fun n₃ => ?_
  refine isLocal_uint16.bind fun n₄ => ?_
  refine (isLocal_replicate Question.isLocal_decoder _).bind fun questions => ?_
  refine (isLocal_replicate Record.isLocal_decoder _).bind fun answers => ?_
  refine (isLocal_replicate Record.isLocal_decoder _).bind fun authorities => ?_
  exact (isLocal_replicate Record.isLocal_decoder _).bind_pure _

/-- Octets that are left over keep a message from being read. -/
lemma decode_of_sections {n : Nat} (h : sections octets.toArray 0 = .ok (m, n)) :
    decode octets =
      if n < octets.length then .error (.format (.leftOver (octets.length - n))) else .ok m := by
  have hdecoder : decoder octets.toArray 0 =
      (decoder.atEnd octets.toArray n).map fun r => (m, r.2) := by
    rw [decoder_eq_sections_bind, bind_of_ok h]
    simp only [Bind.bind]
    cases decoder.atEnd octets.toArray n <;> rfl
  have hremaining : remaining octets.toArray n = octets.length - n := by
    rw [remaining, List.size_toArray]
  by_cases hn : n < octets.length
  · have hleft : 0 < octets.length - n := by omega
    simp only [decode, hdecoder, decoder.atEnd, hremaining, if_pos hleft, if_pos hn]
    rfl
  · have hnone : ¬ 0 < octets.length - n := by omega
    simp only [decode, hdecoder, decoder.atEnd, hremaining, if_neg hnone, if_neg hn]
    rfl

lemma decode_of_sections_error {e : Error} (h : sections octets.toArray 0 = .error e) :
    decode octets = .error e := by
  simp only [decode, decoder_eq_sections_bind, bind_apply, h]
  rfl

/-- Octets stand for a message exactly if it is read from all of them. -/
lemma decode_eq_ok_iff :
    decode octets = .ok m ↔ sections octets.toArray 0 = .ok (m, octets.length) := by
  cases h : sections octets.toArray 0 with
  | error e => simp [decode_of_sections_error h]
  | ok r =>
    obtain ⟨m', n⟩ := r
    have hn : n ≤ octets.length := by
      simpa using isLocal_sections.inside _ 0 m' n (Nat.zero_le _) h
    rw [decode_of_sections h]
    by_cases hlt : n < octets.length
    · simp [hlt, hlt.ne]
    · simp [show n = octets.length by omega]

/-- What breaks off in a message lacks octets, and what goes on behind a message is left over. -/
theorem decode_eq_error_of_prefix (h : decode octets = .ok m) :
    (∀ octets', octets' <+: octets → octets' ≠ octets →
        ∃ e, decode octets' = .error e ∧ e.IsShort)
      ∧ ∀ octets', octets <+: octets' → octets' ≠ octets →
        decode octets' = .error (.format (.leftOver (octets'.length - octets.length))) := by
  rw [decode_eq_ok_iff] at h
  constructor
  · rintro octets' ⟨rest, rfl⟩ hne
    have hrest : 0 < rest.length := by
      rw [List.length_pos_iff]
      rintro rfl
      exact hne (List.append_nil _).symm
    rw [← List.append_toArray] at h
    rcases isLocal_sections.stable octets'.toArray rest.toArray 0 with ⟨e, he, hshort⟩ | heq
    · exact ⟨e, decode_of_sections_error he, hshort⟩
    · -- The message would be read to its end in a packet that is shorter.
      have hend := isLocal_sections.inside _ 0 m _ (Nat.zero_le _) (heq.symm.trans h)
      simp only [List.size_toArray, List.length_append] at hend
      omega
  · rintro octets' ⟨rest, rfl⟩ hne
    have hrest : 0 < rest.length := by
      rw [List.length_pos_iff]
      rintro rfl
      exact hne (List.append_nil _)
    have hsections := (isLocal_sections.stable octets.toArray rest.toArray 0).eq_ok h
    rw [List.append_toArray] at hsections
    rw [decode_of_sections hsections, if_pos (by rw [List.length_append]; omega)]

/-- A response whose names are compressed: an alias, and behind it two strings, both empty. -/
def aliased : Message where
  header := { id := 7, direction := .response }
  questions := [{ name := ⟨[.text [0x61]]⟩ }]
  answers :=
    [{ name := ⟨[.text [0x61]]⟩, resource := .cname ⟨[.text [0x62], .text [0x61]]⟩ },
     { name := ⟨[.text [0x62], .text [0x61]]⟩, resource := .txt [[], []] }]

/-- The octets of this response. -/
def aliasedOctets : Octets :=
  [0, 7, 0x80, 0, 0, 1, 0, 2, 0, 0, 0, 0, 1, 0x61, 0, 0, 1, 0, 1]
    ++ [0xC0, 12, 0, 5, 0, 1, 0, 0, 0, 0, 0, 4, 1, 0x62, 0xC0, 12]
    ++ [0xC0, 31, 0, 16, 0, 1, 0, 0, 0, 0, 0, 2, 0, 0]

theorem decode_eq_error_of_prefix_aliased :
    decode aliasedOctets = .ok aliased
      ∧ (∃ e, decode aliasedOctets.dropLast = .error e ∧ e.IsShort)
      ∧ decode (aliasedOctets ++ [0, 0]) = .error (.format (.leftOver 2)) := by
  have haliased : decode aliasedOctets = .ok aliased := by cbv
  obtain ⟨hshort, hleft⟩ := decode_eq_error_of_prefix haliased
  refine ⟨haliased, hshort _ (List.dropLast_prefix _) (by decide), ?_⟩
  exact hleft (aliasedOctets ++ [0, 0]) (List.prefix_append _ _) (by decide)

end Message

end StubResolver
