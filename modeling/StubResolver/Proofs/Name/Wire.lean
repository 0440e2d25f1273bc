import StubResolver.Name.Wire
import StubResolver.Proofs.Wire.Framing
import StubResolver.Proofs.Wire.Outcome

/-!
# Reading names

A name whose labels fit the wire is read back from its encoding, label by label. Whatever is read
as a name, with or without compression pointers, has only labels that fit the wire.
-/

namespace StubResolver

open Packet

namespace Name

variable {p : Packet} {i hops : Nat} {resume : Option Nat} {done : List Label} {l : Label}

lemma isValid_root : root.IsValid := by simp [IsValid, root]

/-! ### Elements -/

lemma ofNat_ne_zero {n : Nat} (hpos : 1 ≤ n) (hlt : n < 256) : UInt8.ofNat n ≠ 0 := by
  intro h0
  have hn : (UInt8.ofNat n).toNat = n := UInt8.toNat_ofNat_of_lt' hlt
  rw [h0] at hn
  simp at hn
  omega

/-- The number of bits that an octet stands for, where zero stands for 256. -/
lemma bitCount_ofNat {n : Nat} (hpos : 1 ≤ n) (hmax : n ≤ 256) :
    (if UInt8.ofNat n = 0 then Label.maxBits else (UInt8.ofNat n).toNat) = n := by
  rcases Nat.lt_or_eq_of_le hmax with hlt | rfl
  · rw [if_neg (ofNat_ne_zero hpos hlt), UInt8.toNat_ofNat_of_lt' hlt]
  · rfl

/-- A label that fits the wire is read from its encoding. -/
lemma element_of_holds (hl : l.IsValid) (h : Holds p i l.encode) :
    element p i = .ok (.label l) := by
  cases l with
  | text octets =>
    obtain ⟨hpos, hmax⟩ := hl
    unfold Label.maxLength at hmax
    obtain ⟨hmark, hoctets⟩ := holds_cons.mp h
    have hn : (UInt8.ofNat octets.length).toNat = octets.length :=
      UInt8.toNat_ofNat_of_lt' (Nat.lt_of_le_of_lt hmax (by decide))
    have hne : UInt8.ofNat octets.length ≠ 0 :=
      ofNat_ne_zero hpos (Nat.lt_of_le_of_lt hmax (by decide))
    simp only [element, hmark, hne, if_false, hn, Label.maxLength, hmax, if_true]
    simp only [Decoder.reads_octets octets p (i + 1) hoctets]
    rfl
  | bits octets count =>
    obtain ⟨hpos, hmax, hlen⟩ := hl
    obtain ⟨hmark, h⟩ := holds_cons.mp h
    obtain ⟨hcount, hoctets⟩ := holds_cons.mp h
    have hn := bitCount_ofNat hpos hmax
    have hread := Decoder.reads_octets octets p (i + 2) hoctets
    rw [hlen] at hread
    simp only [element, hmark]
    rw [if_neg (by decide), if_neg (by decide), if_pos trivial]
    simp only [Decoder.octet_of_getElem? hcount, ok_bind, hn, hread]
    rfl

lemma element_of_zero (h : p[i]? = some 0) : element p i = .ok .stop := by
  simp only [element, h, if_true]

/-- The number of bits of a label is never zero. -/
lemma bitCount_le (n : UInt8) :
    1 ≤ (if n = 0 then Label.maxBits else n.toNat)
      ∧ (if n = 0 then Label.maxBits else n.toNat) ≤ Label.maxBits := by
  have := n.toNat_lt
  unfold Label.maxBits
  split_ifs with h
  · omega
  · have : n.toNat ≠ 0 := fun h0 => h (UInt8.toNat_inj.mp h0)
    omega

/-- Every label that is read fits the wire. -/
lemma isValid_of_element (h : element p i = .ok (.label l)) : l.IsValid := by
  unfold element at h
  split at h
  · cases h
  next mark hmark =>
    split_ifs at h with hzero htext hbits hpointer
    · cases h
    · obtain ⟨⟨octets, j⟩, hread, h⟩ := except_bind_eq_ok_iff.mp h
      cases h
      have hlen := Decoder.yields_octets _ p _ octets j hread
      have : mark.toNat ≠ 0 := fun h0 => hzero (UInt8.toNat_inj.mp h0)
      exact ⟨by omega, by omega⟩
    · obtain ⟨⟨n, _⟩, _, h⟩ := except_bind_eq_ok_iff.mp h
      obtain ⟨⟨octets, j⟩, hread, h⟩ := except_bind_eq_ok_iff.mp h
      cases h
      have hlen := Decoder.yields_octets _ p _ octets j hread
      exact ⟨(bitCount_le n).1, (bitCount_le n).2, hlen⟩
    · obtain ⟨⟨low, _⟩, _, h⟩ := except_bind_eq_ok_iff.mp h
      cases h

/-- A label stands where it is read. -/
lemma holds_of_element (h : element p i = .ok (.label l)) : Holds p i l.encode := by
  unfold element at h
  split at h
  · cases h
  next mark hmark =>
    split_ifs at h with hzero htext hbits hpointer
    · cases h
    · obtain ⟨⟨octets, j⟩, hread, h⟩ := except_bind_eq_ok_iff.mp h
      cases h
      obtain ⟨hlen, -, hoctets⟩ := Decoder.octets_eq_ok_iff.mp hread
      have hn : UInt8.ofNat octets.length = mark := by rw [hlen, UInt8.ofNat_toNat]
      exact holds_cons.mpr ⟨by rw [hn, hmark], hoctets⟩
    · obtain ⟨⟨n, k⟩, hn, h⟩ := except_bind_eq_ok_iff.mp h
      obtain ⟨⟨octets, j⟩, hread, h⟩ := except_bind_eq_ok_iff.mp h
      cases h
      obtain ⟨-, -, hoctets⟩ := Decoder.octets_eq_ok_iff.mp hread
      obtain ⟨hn, -⟩ := Decoder.octet_eq_ok hn
      have hcount : UInt8.ofNat (if n = 0 then Label.maxBits else n.toNat) = n := by
        split_ifs with hzero
        · rw [hzero]
          rfl
        · exact UInt8.ofNat_toNat
      exact holds_cons.mpr ⟨by rw [hmark, hbits], holds_cons.mpr ⟨by rw [hcount, hn], hoctets⟩⟩
    · obtain ⟨⟨low, k⟩, -, h⟩ := except_bind_eq_ok_iff.mp h
      cases h

/-- A label is read exactly where its encoding stands. -/
lemma element_eq_label_iff :
    element p i = .ok (.label l) ↔ l.IsValid ∧ Holds p i l.encode :=
  ⟨fun h => ⟨isValid_of_element h, holds_of_element h⟩, fun h => element_of_holds h.1 h.2⟩

/-- A pointer takes up two octets of the packet. -/
lemma le_size_of_pointer {target : Nat} (h : element p i = .ok (.pointer target)) :
    i + 2 ≤ p.size := by
  unfold element at h
  split at h
  · cases h
  next mark hmark =>
    split_ifs at h with hzero htext hbits hpointer
    · cases h
    · obtain ⟨⟨octets, j⟩, -, h⟩ := except_bind_eq_ok_iff.mp h
      cases h
    · obtain ⟨⟨n, k⟩, -, h⟩ := except_bind_eq_ok_iff.mp h
      obtain ⟨⟨octets, j⟩, -, h⟩ := except_bind_eq_ok_iff.mp h
      cases h
    · obtain ⟨⟨low, k⟩, hlow, -⟩ := except_bind_eq_ok_iff.mp h
      obtain ⟨hb, -⟩ := Decoder.octet_eq_ok hlow
      exact (Array.getElem?_eq_some_iff.mp hb).1

lemma isMalformed_of_element {e : Error} (h : element p i = .error e) : e.IsMalformed := by
  have hshort : (Error.format .shortInput).IsMalformed := trivial
  unfold element at h
  split at h
  · cases h
    trivial
  next mark hmark =>
    split_ifs at h with hzero htext hbits hpointer
    · rcases except_bind_eq_error_iff.mp h with h | ⟨r, _, h⟩
      · exact Decoder.throws_octets hshort _ p _ e h
      · cases h
    · rcases except_bind_eq_error_iff.mp h with h | ⟨n, _, h⟩
      · exact Decoder.throws_octet hshort p _ e h
      rcases except_bind_eq_error_iff.mp h with h | ⟨r, _, h⟩
      · exact Decoder.throws_octets hshort _ p _ e h
      · cases h
    · rcases except_bind_eq_error_iff.mp h with h | ⟨low, _, h⟩
      · exact Decoder.throws_octet hshort p _ e h
      · cases h
    · cases h
      trivial

/-! ### The walk -/

lemma walk_of_stop (h : element p i = .ok .stop) :
    walk p i hops resume done = .ok (⟨done.reverse⟩, resume.getD (i + 1)) := by
  rw [walk]
  split <;> simp_all

lemma walk_of_label (h : element p i = .ok (.label l)) :
    walk p i hops resume done = walk p (i + l.wireLength) hops resume (l :: done) := by
  rw [walk]
  split <;> simp_all

lemma walk_of_pointer {target : Nat} (h : element p i = .ok (.pointer target)) :
    walk p i hops resume done =
      if i ≤ target then .error (.format (.forwardPointer i target))
      else if maxPointers ≤ hops then .error (.format .tooManyPointers)
      else walk p target (hops + 1) (some (resume.getD (i + 2))) done := by
  rw [walk]
  split <;> simp_all

lemma walk_of_error {e : Error} (h : element p i = .error e) :
    walk p i hops resume done = .error e := by
  rw [walk]
  split <;> simp_all

/-- A name without pointers is walked through to its end. -/
lemma walk_of_holds (labels : List Label) (hlabels : ∀ l ∈ labels, l.IsValid)
    (h : Holds p i (encode ⟨labels⟩)) :
    walk p i hops none done
      = .ok (⟨done.reverse ++ labels⟩, i + (encode ⟨labels⟩).length) := by
  induction labels generalizing i done with
  | nil =>
    rw [walk_of_stop (element_of_zero (holds_cons.mp h).1), List.append_nil]
    rfl
  | cons l labels ih =>
    rw [encode_cons] at h ⊢
    obtain ⟨hl, hrest⟩ := holds_append.mp h
    obtain ⟨hvalid, hlabels⟩ := List.forall_mem_cons.mp hlabels
    rw [Label.length_encode] at hrest
    rw [walk_of_label (element_of_holds hvalid hl), ih hlabels hrest]
    simp [Nat.add_assoc]

/-- A name is read back from its encoding. -/
lemma reads_encode {n : Name} (hn : n.IsValid) : decoder.Reads n.encode n := by
  intro p i h
  exact walk_of_holds n.labels hn h

lemma isValid_of_walk {r : Name × Nat} (hdone : ∀ l ∈ done, l.IsValid)
    (h : walk p i hops resume done = .ok r) : r.1.IsValid := by
  fun_induction walk p i hops resume done with
  | case1 => cases h
  | case2 i hops resume done helement =>
    cases h
    intro l hl
    exact hdone l (List.mem_reverse.mp hl)
  | case3 i hops resume done l helement _ _ ih =>
    exact ih (List.forall_mem_cons.mpr ⟨isValid_of_element helement, hdone⟩) h
  | case4 => cases h
  | case5 => cases h
  | case6 i hops resume done target helement _ _ ih => exact ih hdone h

/-- Whatever is read as a name fits the wire. -/
lemma yields_decoder : decoder.Yields IsValid := by
  intro p i n j h
  exact isValid_of_walk (by simp) h

lemma isMalformed_of_walk {e : Error} (h : walk p i hops resume done = .error e) :
    e.IsMalformed := by
  fun_induction walk p i hops resume done with
  | case1 i hops resume done e' helement =>
    cases h
    exact isMalformed_of_element helement
  | case2 => cases h
  | case3 i hops resume done l helement _ _ ih => exact ih h
  | case4 => cases h; trivial
  | case5 => cases h; trivial
  | case6 i hops resume done target helement _ _ ih => exact ih h

lemma throws_decoder : decoder.Throws Error.IsMalformed := fun _ _ _ h => isMalformed_of_walk h

end Name

end StubResolver
