import StubResolver.Proofs.Name.Wire

/-!
# What a name has at a position

An octet begins a label, a compression pointer or nothing that is known, or it ends the name. What
is read at a position stands there octet by octet, and if nothing can be read then the packet breaks
off, or the octet is not known.
-/

namespace StubResolver

open Packet

namespace Decoder

variable {p : Packet} {i n : Nat} {e : Error}

lemma octet_of_short (h : p.size ≤ i) : octet p i = .error (.format .shortInput) := by
  simp only [octet, Array.getElem?_eq_none h]

lemma octet_eq_error (h : octet p i = .error e) : e = .format .shortInput ∧ p.size ≤ i := by
  unfold octet at h
  split at h
  next => cases h
  next hnone =>
    cases h
    exact ⟨rfl, Array.getElem?_eq_none_iff.mp hnone⟩

lemma octets_of_short (hpos : 0 < n) (h : p.size < i + n) :
    octets n p i = .error (.format .shortInput) := by
  have hsize : (p.extract i (i + n)).size ≠ n := by
    rw [Array.size_extract]
    omega
  simp only [octets, if_neg hsize]

lemma octets_eq_error (h : octets n p i = .error e) :
    e = .format .shortInput ∧ p.size < i + n := by
  simp only [octets] at h
  split_ifs at h with hsize
  cases h
  rw [Array.size_extract] at hsize
  exact ⟨rfl, by omega⟩

end Decoder

namespace Name

variable {p : Packet} {i target : Nat} {l : Label}

/-! ### What begins at a position -/

lemma toNat_of_pointerMark {mark : UInt8} (h : 0xC0 ≤ mark) : 0xC0 ≤ mark.toNat :=
  UInt8.le_iff_toNat_le.mp h

/-- A label of text begins with its length. -/
lemma element_of_textMark {n : Nat} (hmark : p[i]? = some (.ofNat n)) (hpos : 1 ≤ n)
    (hmax : n ≤ 63) :
    element p i = Decoder.octets n p (i + 1) >>= fun r => .ok (.label (.text r.1)) := by
  have hn : (UInt8.ofNat n).toNat = n :=
    UInt8.toNat_ofNat_of_lt' (Nat.lt_of_le_of_lt hmax (by decide))
  have hne : UInt8.ofNat n ≠ 0 := ofNat_ne_zero hpos (Nat.lt_of_le_of_lt hmax (by decide))
  simp only [element, hmark, if_neg hne, hn, Label.maxLength, if_pos hmax]
  rfl

/-- A label of bits begins with its mark and the number of bits. -/
lemma element_of_bitsMark (hmark : p[i]? = some 0x41) :
    element p i = Decoder.octet p (i + 1) >>= fun n =>
      Decoder.octets (Label.octetsFor (if n.1 = 0 then Label.maxBits else n.1.toNat)) p (i + 2) >>=
        fun r => .ok (.label (.bits r.1 (if n.1 = 0 then Label.maxBits else n.1.toNat))) := by
  simp only [element, hmark]
  rw [if_neg (by decide), if_neg (by decide), if_pos (by decide)]
  rfl

/-- A pointer begins with two bits that are set. -/
lemma element_of_pointerMark {mark : UInt8} (hmark : p[i]? = some mark) (hpointer : 0xC0 ≤ mark) :
    element p i = Decoder.octet p (i + 1) >>= fun low =>
      .ok (.pointer (256 * (mark.toNat - 0xC0) + low.1.toNat)) := by
  have hle := toNat_of_pointerMark hpointer
  have hzero : mark ≠ 0 := by
    rintro rfl
    simp at hle
  have hlong : ¬ mark.toNat ≤ Label.maxLength := by
    rw [Label.maxLength]
    omega
  have hbits : mark ≠ Label.bitsMark := by
    rintro rfl
    simp [Label.bitsMark] at hle
  simp only [element, hmark, if_neg hzero, if_neg hlong, if_neg hbits, if_pos hpointer]
  rfl

/-- Other octets begin nothing that is known. -/
lemma element_of_otherMark {mark : UInt8} (hmark : p[i]? = some mark)
    (hother : mark = 0x40 ∨ 0x42 ≤ mark ∧ mark ≤ 0xBF) :
    element p i = .error (.unsupportedLabelType mark) := by
  have hrange : 0x40 ≤ mark.toNat ∧ mark.toNat ≤ 0xBF ∧ mark.toNat ≠ 0x41 := by
    rcases hother with rfl | ⟨hlow, hhigh⟩
    · decide
    · have hlow : 0x42 ≤ mark.toNat := UInt8.le_iff_toNat_le.mp hlow
      have hhigh : mark.toNat ≤ 0xBF := UInt8.le_iff_toNat_le.mp hhigh
      omega
  have hzero : mark ≠ 0 := by
    rintro rfl
    simp at hrange
  have hlong : ¬ mark.toNat ≤ Label.maxLength := by
    rw [Label.maxLength]
    omega
  have hbits : mark ≠ Label.bitsMark := by
    rintro rfl
    simp [Label.bitsMark] at hrange
  have hpointer : ¬ 0xC0 ≤ mark := by
    intro hle
    have := toNat_of_pointerMark hle
    omega
  simp only [element, hmark, if_neg hzero, if_neg hlong, if_neg hbits, if_neg hpointer]

/-- What an octet begins: nothing, a label, a pointer, or what is not known. -/
lemma mark_cases (mark : UInt8) :
    mark = 0 ∨ (∃ n, 1 ≤ n ∧ n ≤ 63 ∧ mark = .ofNat n) ∨ mark = 0x41 ∨ 0xC0 ≤ mark
      ∨ (mark = 0x40 ∨ 0x42 ≤ mark ∧ mark ≤ 0xBF) := by
  simp only [UInt8.le_iff_toNat_le, ← UInt8.toNat_inj]
  have := mark.toNat_lt
  by_cases htext : 1 ≤ mark.toNat ∧ mark.toNat ≤ 63
  · refine Or.inr (Or.inl ⟨mark.toNat, htext.1, htext.2, ?_⟩)
    rw [UInt8.ofNat_toNat]
  · simp
    omega

/-! ### Pointers -/

/-- The octets of a compression pointer. -/
def pointerTo (target : Nat) : Octets := [.ofNat (0xC0 + target / 256), .ofNat target]

/-- A compression pointer stands at a position. -/
def PointsTo (p : Packet) (i target : Nat) : Prop :=
  target ≤ 0x3FFF ∧ Holds p i (pointerTo target)

/-- The two octets of a pointer give its target. -/
lemma pointerTo_eq {mark : UInt8} (low : UInt8) (hmark : 0xC0 ≤ mark) :
    256 * (mark.toNat - 0xC0) + low.toNat ≤ 0x3FFF
      ∧ pointerTo (256 * (mark.toNat - 0xC0) + low.toNat) = [mark, low] := by
  have hmark := toNat_of_pointerMark hmark
  have hlt := mark.toNat_lt
  have hlow := low.toNat_lt
  have hhigh : 0xC0 + (256 * (mark.toNat - 0xC0) + low.toNat) / 256 = mark.toNat := by omega
  have hrest : UInt8.ofNat (256 * (mark.toNat - 0xC0) + low.toNat) = low := by
    apply UInt8.toNat_inj.mp
    rw [UInt8.toNat_ofNat']
    omega
  refine ⟨by omega, ?_⟩
  rw [pointerTo, hhigh, hrest, UInt8.ofNat_toNat]

lemma element_of_pointsTo (h : PointsTo p i target) : element p i = .ok (.pointer target) := by
  obtain ⟨htarget, hp⟩ := h
  obtain ⟨hmark, hp⟩ := holds_cons.mp hp
  obtain ⟨hlow, -⟩ := holds_cons.mp hp
  have hn : (UInt8.ofNat (0xC0 + target / 256)).toNat = 0xC0 + target / 256 :=
    UInt8.toNat_ofNat_of_lt' (show _ < 256 by omega)
  have hle : (0xC0 : UInt8) ≤ .ofNat (0xC0 + target / 256) := by
    rw [UInt8.le_iff_toNat_le, hn]
    exact Nat.le_add_right _ _
  have htarget : 256 * (0xC0 + target / 256 - 0xC0) + target % 256 = target := by omega
  rw [element_of_pointerMark hmark hle, Decoder.octet_of_getElem? hlow, ok_bind, hn,
    UInt8.toNat_ofNat', htarget]

/-! ### What stands at a position -/

/-- The packet ends inside of the label or the pointer that begins at a position, or in front of
it. -/
inductive BreaksOff (p : Packet) (i : Nat) : Prop where
  | nothing (h : p.size ≤ i)
  | text {n : Nat} (hpos : 1 ≤ n) (hmax : n ≤ 63) (hmark : p[i]? = some (.ofNat n))
      (h : p.size < i + 1 + n)
  | count (hmark : p[i]? = some 0x41) (h : p.size ≤ i + 1)
  | bits {n : Nat} (hpos : 1 ≤ n) (hmax : n ≤ 256) (hmark : p[i]? = some 0x41)
      (hcount : p[i + 1]? = some (.ofNat n)) (h : p.size < i + 2 + (n + 7) / 8)
  | pointer {mark : UInt8} (hmark : p[i]? = some mark) (hpointer : 0xC0 ≤ mark)
      (h : p.size ≤ i + 1)

lemma exists_bitCount (b : UInt8) : ∃ n, 1 ≤ n ∧ n ≤ 256 ∧ b = .ofNat n := by
  by_cases hzero : b = 0
  · exact ⟨256, by decide, by decide, hzero⟩
  · have hne : b.toNat ≠ 0 := fun h0 => hzero (UInt8.toNat_inj.mp h0)
    exact ⟨b.toNat, by omega, Nat.le_of_lt b.toNat_lt, UInt8.ofNat_toNat.symm⟩

lemma element_of_breaksOff (h : BreaksOff p i) : element p i = .error (.format .shortInput) := by
  cases h with
  | nothing h => simp only [element, Array.getElem?_eq_none h]
  | @text n hpos hmax hmark h =>
    rw [element_of_textMark hmark hpos hmax, Decoder.octets_of_short (by omega) h, error_bind]
  | count hmark h =>
    rw [element_of_bitsMark hmark, Decoder.octet_of_short h, error_bind]
  | @bits n hpos hmax hmark hcount h =>
    have hlength : 0 < Label.octetsFor n := Nat.div_pos (by omega) (by decide)
    rw [element_of_bitsMark hmark, Decoder.octet_of_getElem? hcount, ok_bind,
      bitCount_ofNat hpos hmax, Decoder.octets_of_short hlength h, error_bind]
  | pointer hmark hpointer h =>
    rw [element_of_pointerMark hmark hpointer, Decoder.octet_of_short h, error_bind]

/-- What a name has at a position, as it is read. -/
inductive Stands (p : Packet) (i : Nat) : Except Error Element → Prop where
  | stop (h : p[i]? = some 0) : Stands p i (.ok .stop)
  | label {l : Label} (hl : l.IsValid) (hp : Holds p i l.encode) : Stands p i (.ok (.label l))
  | pointer {target : Nat} (h : PointsTo p i target) : Stands p i (.ok (.pointer target))
  | short (h : BreaksOff p i) : Stands p i (.error (.format .shortInput))
  | other {mark : UInt8} (hmark : p[i]? = some mark)
      (hother : mark = 0x40 ∨ 0x42 ≤ mark ∧ mark ≤ 0xBF) :
      Stands p i (.error (.unsupportedLabelType mark))

lemma Stands.of_label (h : element p i = .ok (.label l)) : Stands p i (element p i) := by
  obtain ⟨hl, hp⟩ := element_eq_label_iff.mp h
  rw [h]
  exact .label hl hp

lemma stands_of_textMark {n : Nat} (hmark : p[i]? = some (.ofNat n)) (hpos : 1 ≤ n)
    (hmax : n ≤ 63) : Stands p i (element p i) := by
  have h := element_of_textMark hmark hpos hmax
  cases hoctets : Decoder.octets n p (i + 1) with
  | error e =>
    obtain ⟨rfl, hshort⟩ := Decoder.octets_eq_error hoctets
    rw [h, hoctets, error_bind]
    exact .short (.text hpos hmax hmark hshort)
  | ok r =>
    rw [hoctets, ok_bind] at h
    exact .of_label h

lemma stands_of_bitsMark (hmark : p[i]? = some 0x41) : Stands p i (element p i) := by
  have h := element_of_bitsMark hmark
  cases hcount : Decoder.octet p (i + 1) with
  | error e =>
    obtain ⟨rfl, hshort⟩ := Decoder.octet_eq_error hcount
    rw [h, hcount, error_bind]
    exact .short (.count hmark hshort)
  | ok r =>
    obtain ⟨count, next⟩ := r
    obtain ⟨n, hpos, hmax, rfl⟩ := exists_bitCount count
    rw [hcount, ok_bind, bitCount_ofNat hpos hmax] at h
    cases hoctets : Decoder.octets (Label.octetsFor n) p (i + 2) with
    | error e =>
      obtain ⟨rfl, hshort⟩ := Decoder.octets_eq_error hoctets
      rw [h, hoctets, error_bind]
      exact .short (.bits hpos hmax hmark (Decoder.octet_eq_ok hcount).1 hshort)
    | ok r =>
      rw [hoctets, ok_bind] at h
      exact .of_label h

lemma stands_of_pointerMark {mark : UInt8} (hmark : p[i]? = some mark) (hpointer : 0xC0 ≤ mark) :
    Stands p i (element p i) := by
  have h := element_of_pointerMark hmark hpointer
  cases hlow : Decoder.octet p (i + 1) with
  | error e =>
    obtain ⟨rfl, hshort⟩ := Decoder.octet_eq_error hlow
    rw [h, hlow, error_bind]
    exact .short (.pointer hmark hpointer hshort)
  | ok r =>
    obtain ⟨low, next⟩ := r
    obtain ⟨hle, hoctets⟩ := pointerTo_eq low hpointer
    rw [h, hlow, ok_bind]
    refine .pointer ⟨hle, ?_⟩
    rw [hoctets]
    exact holds_cons.mpr ⟨hmark, holds_cons.mpr ⟨(Decoder.octet_eq_ok hlow).1, holds_nil⟩⟩

/-- Whatever is read at a position stands there. -/
lemma stands_element (p : Packet) (i : Nat) : Stands p i (element p i) := by
  cases hmark : p[i]? with
  | none =>
    simp only [element, hmark]
    exact .short (.nothing (Array.getElem?_eq_none_iff.mp hmark))
  | some mark =>
    obtain rfl | ⟨n, hpos, hmax, rfl⟩ | rfl | hpointer | hother := mark_cases mark
    · rw [element_of_zero hmark]
      exact .stop hmark
    · exact stands_of_textMark hmark hpos hmax
    · exact stands_of_bitsMark hmark
    · exact stands_of_pointerMark hmark hpointer
    · rw [element_of_otherMark hmark hother]
      exact .other hmark hother

lemma zero_of_element (h : element p i = .ok .stop) : p[i]? = some 0 := by
  have hstands := stands_element p i
  rw [h] at hstands
  cases hstands with
  | stop h => exact h

lemma pointsTo_of_element (h : element p i = .ok (.pointer target)) : PointsTo p i target := by
  have hstands := stands_element p i
  rw [h] at hstands
  cases hstands with
  | pointer h => exact h

end Name

end StubResolver
