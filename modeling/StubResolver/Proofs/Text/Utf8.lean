import Mathlib.Data.List.Basic
import Mathlib.Tactic.Common
import StubResolver.Text.Utf8

/-!
# Reading what was encoded

Text that was encoded in UTF-8 is read back without a loss. Of any octets, whether they are text or
not, exactly those below 128 are read as characters of ASCII, and something is read unless there
are no octets. A reader that refuses faults takes exactly the octets that encode a text.
-/

namespace StubResolver.Utf8

variable {ps : List Piece} {b : UInt8} {s : Beginning} {c : Char}

/-! ### Single octets -/

lemma toNat_octet {n : Nat} (h : n < 256) : (UInt8.ofNat n).toNat = n :=
  UInt8.toNat_ofNat_of_lt' h

lemma start_of_lt (h : b.toNat < 0x80) :
    Reader.start ps b = ⟨.char (Char.ofNat b.toNat) :: ps, none⟩ := by
  have hb : b < 0x80 := UInt8.lt_iff_toNat_lt.mpr h
  simp only [Reader.start, hb, if_true]

lemma start_of_le (h : 0x80 ≤ b.toNat) :
    Reader.start ps b = match beginning? b.toNat with
      | some s => ⟨ps, some s⟩
      | none => ⟨.invalid 1 :: ps, none⟩ := by
  have hb : ¬ b < 0x80 := by
    rw [UInt8.lt_iff_toNat_lt, Nat.not_lt]
    exact h
  exact if_neg hb

@[simp] lemma step_none : Reader.step ⟨ps, none⟩ b = Reader.start ps b := rfl

/-- A leading octet begins an encoding. -/
lemma start_lead {n : Nat} (h : beginning? n = some s) (hlow : 0x80 ≤ n) (hhigh : n < 256) :
    Reader.start ps (.ofNat n) = ⟨ps, some s⟩ := by
  have hn := toNat_octet hhigh
  rw [start_of_le (by omega), hn, h]

/-- The last octet of an encoding gives the character. -/
lemma step_last {x : Nat} (hx : x < 64) (hs : s.missing = 1)
    (h : s.low ≤ 0x80 + x ∧ 0x80 + x ≤ s.high) :
    Reader.step ⟨ps, some s⟩ (.ofNat (0x80 + x))
      = ⟨.char (Char.ofNat (64 * s.code + x)) :: ps, none⟩ := by
  have hb := toNat_octet (n := 0x80 + x) (by omega)
  simp only [Reader.step, hb, h, hs, and_self, if_true, Nat.add_sub_cancel_left]

/-- Any other octet behind a leading one adds to the code point. -/
lemma step_tail {x : Nat} (hx : x < 64) (hs : s.missing ≠ 1)
    (h : s.low ≤ 0x80 + x ∧ 0x80 + x ≤ s.high) :
    Reader.step ⟨ps, some s⟩ (.ofNat (0x80 + x))
      = ⟨ps, some ⟨s.missing - 1, 0x80, 0xBF, 64 * s.code + x, s.width + 1⟩⟩ := by
  have hb := toNat_octet (n := 0x80 + x) (by omega)
  simp only [Reader.step, hb, h, hs, and_self, if_true, if_false, Nat.add_sub_cancel_left]

/-! ### Leading octets -/

lemma beginning?_two {x : Nat} (hlow : 2 ≤ x) (hhigh : x < 32) :
    beginning? (0xC0 + x) = some ⟨1, 0x80, 0xBF, x, 1⟩ := by
  unfold beginning?
  rw [if_pos (by omega), Nat.add_sub_cancel_left]

/-- The octet behind the first of three is only kept from encodings that are longer than needed
and from surrogates. -/
lemma beginning?_three {x : Nat} (hx : x < 16) :
    ∃ low high, beginning? (0xE0 + x) = some ⟨2, low, high, x, 1⟩
      ∧ ∀ y, y < 64 → (x = 0 → 32 ≤ y) → (x = 13 → y < 32) → low ≤ 0x80 + y ∧ 0x80 + y ≤ high := by
  unfold beginning?
  rw [if_neg (by omega), Nat.add_sub_cancel_left]
  split_ifs <;> first | omega | exact ⟨_, _, rfl, fun y _ _ _ => by omega⟩

/-- The octet behind the first of four is only kept from encodings that are longer than needed
and from what lies above the last code point. -/
lemma beginning?_four {x : Nat} (hx : x < 5) :
    ∃ low high, beginning? (0xF0 + x) = some ⟨3, low, high, x, 1⟩
      ∧ ∀ y, y < 64 → (x = 0 → 16 ≤ y) → (x = 4 → y < 16) → low ≤ 0x80 + y ∧ 0x80 + y ≤ high := by
  unfold beginning?
  rw [if_neg (by omega), if_neg (by omega), if_neg (by omega), if_neg (by omega),
    Nat.add_sub_cancel_left]
  split_ifs <;> first | omega | exact ⟨_, _, rfl, fun y _ _ _ => by omega⟩

/-! ### Encoded text -/

lemma toNat_lt (c : Char) : c.toNat < 0xD800 ∨ 0xDFFF < c.toNat ∧ c.toNat < 0x110000 := by
  simpa [UInt32.isValidChar, Nat.isValidChar] using c.valid

/-- The encoding of a character is read as that character. -/
lemma foldl_step_encodeChar (ps : List Piece) (c : Char) :
    (encodeChar c).foldl Reader.step ⟨ps, none⟩ = ⟨.char c :: ps, none⟩ := by
  have hc := toNat_lt c
  have hofNat : ∀ n, n = c.toNat → Char.ofNat n = c := by
    rintro n rfl
    exact Char.ofNat_toNat c
  simp only [encodeChar]
  split_ifs with h₁ h₂ h₃ <;> simp only [List.foldl_cons, List.foldl_nil]
  · have hb : (UInt8.ofNat c.toNat).toNat = c.toNat := toNat_octet (by omega)
    rw [step_none, start_of_lt (by omega), hofNat _ hb]
  · have hs := beginning?_two (x := c.toNat / 64) (by omega) (by omega)
    rw [step_none, start_lead hs (by omega) (by omega)]
    rw [step_last (by omega) rfl ⟨by simp, by simp; omega⟩]
    rw [hofNat _ (by simp only; omega)]
  · obtain ⟨low, high, hs, hrange⟩ := beginning?_three (x := c.toNat / 4096) (by omega)
    have hy := hrange (c.toNat / 64 % 64) (by omega) (by omega) (by omega)
    rw [step_none, start_lead hs (by omega) (by omega)]
    rw [step_tail (by omega) (by simp) hy]
    rw [step_last (by omega) rfl ⟨by simp, by simp; omega⟩]
    rw [hofNat _ (by simp only; omega)]
  · obtain ⟨low, high, hs, hrange⟩ := beginning?_four (x := c.toNat / 262144) (by omega)
    have hy := hrange (c.toNat / 4096 % 64) (by omega) (by omega) (by omega)
    rw [step_none, start_lead hs (by omega) (by omega)]
    rw [step_tail (by omega) (by simp) hy]
    rw [step_tail (by omega) (by simp) ⟨by simp, by simp; omega⟩]
    rw [step_last (by omega) rfl ⟨by simp, by simp; omega⟩]
    rw [hofNat _ (by simp only; omega)]

lemma foldl_step_encode (ps : List Piece) (cs : List Char) :
    (encode cs).foldl Reader.step ⟨ps, none⟩ = ⟨(cs.map Piece.char).reverse ++ ps, none⟩ := by
  induction cs generalizing ps with
  | nil => rfl
  | cons c cs ih =>
    rw [encode, List.flatMap_cons, List.foldl_append, foldl_step_encodeChar]
    rw [← encode, ih]
    simp

lemma pieces_encode (cs : List Char) : pieces (encode cs) = cs.map Piece.char := by
  rw [pieces, foldl_step_encode, Reader.finish, List.append_nil, List.reverse_reverse]

/-- Text that was encoded is read back. -/
@[simp] lemma decodeLossy_encode (cs : List Char) : decodeLossy (encode cs) = cs := by
  rw [decodeLossy, pieces_encode, List.map_map]
  exact List.map_id cs

/-! ### Nothing is lost -/

lemma finish_step_ne_nil (r : Reader) (b : UInt8) : (r.step b).finish ≠ [] := by
  have hstart : ∀ ps, (Reader.start ps b).finish ≠ [] := by
    intro ps
    by_cases hb : b.toNat < 0x80
    · rw [start_of_lt hb]
      simp [Reader.finish]
    · rw [start_of_le (by omega)]
      split <;> simp [Reader.finish]
  obtain ⟨ps, _ | s⟩ := r
  · exact hstart ps
  · simp only [Reader.step]
    split_ifs
    · simp [Reader.finish]
    · simp [Reader.finish]
    · exact hstart _

/-- Only where there are no octets nothing is read. -/
@[simp] lemma decodeLossy_eq_nil_iff {bs : List UInt8} : decodeLossy bs = [] ↔ bs = [] := by
  rw [decodeLossy, List.map_eq_nil_iff, pieces]
  rcases List.eq_nil_or_concat bs with rfl | ⟨bs, b, rfl⟩
  · simp [Reader.finish]
  · rw [List.concat_eq_append, List.foldl_append, List.foldl_cons, List.foldl_nil]
    simp [finish_step_ne_nil]

/-! ### Characters of ASCII -/

/-- Whatever continues a beginning encodes a character beyond ASCII. -/
structure Beginning.IsLong (s : Beginning) : Prop where
  low_ge : 0x80 ≤ s.low
  code_ge : 2 ≤ 64 * s.code + (s.low - 0x80)
  last_ge : s.missing = 1 → 0x80 ≤ 64 * s.code + (s.low - 0x80)

lemma isLong_of_beginning? {n : Nat} (h : beginning? n = some s) : s.IsLong := by
  unfold beginning? at h
  split_ifs at h <;> cases h <;> constructor <;> intros <;> simp only at * <;> omega

/-- A reader has begun nothing that could end in a character of ASCII. -/
def Reader.IsLong (r : Reader) : Prop := ∀ s, r.begun = some s → s.IsLong

lemma Reader.IsLong.step {r : Reader} (hr : r.IsLong) (b : UInt8) : (r.step b).IsLong := by
  have hstart : ∀ ps, (Reader.start ps b).IsLong := by
    intro ps
    by_cases hb : b.toNat < 0x80
    · rw [start_of_lt hb]
      rintro s ⟨⟩
    · rw [start_of_le (by omega)]
      split
      · rintro s ⟨⟩
        exact isLong_of_beginning? ‹_›
      · rintro s ⟨⟩
  obtain ⟨ps, _ | s⟩ := r
  · exact hstart ps
  have hs := hr s rfl
  have := hs.code_ge
  simp only [Reader.step]
  split_ifs with hrange hlast
  · rintro t ⟨⟩
  · rintro t ⟨⟩
    constructor <;> simp <;> omega
  · exact hstart _

lemma toNat_ofNat_of_isValidChar {n : Nat} (h : n.isValidChar) : (Char.ofNat n).toNat = n := by
  rw [Char.ofNat, dif_pos h]
  rfl

lemma toNat_ofNat (n : Nat) : (Char.ofNat n).toNat = n ∨ (Char.ofNat n).toNat = 0 := by
  by_cases h : n.isValidChar
  · exact Or.inl (toNat_ofNat_of_isValidChar h)
  · refine Or.inr ?_
    rw [Char.ofNat, dif_neg h]
    rfl

lemma toNat_ofNat_of_lt {n : Nat} (h : n < 0x80) : (Char.ofNat n).toNat = n :=
  toNat_ofNat_of_isValidChar (Or.inl (by omega))

/-- The character that one octet below 128 stands for. -/
lemma ofNat_eq_iff (hc : c.toNat < 0x80) (hb : b.toNat < 0x80) :
    Char.ofNat b.toNat = c ↔ UInt8.ofNat c.toNat = b := by
  have hc' : (UInt8.ofNat c.toNat).toNat = c.toNat := toNat_octet (by omega)
  rw [← Char.toNat_inj, toNat_ofNat_of_lt hb, ← UInt8.toNat_inj, hc', eq_comm]

section Ascii

variable {r : Reader} (hc : 0 < c.toNat ∧ c.toNat < 0x80)
include hc

lemma count_octet (hb : 0x80 ≤ b.toNat) : [b].count (UInt8.ofNat c.toNat) = 0 := by
  rw [List.count_eq_zero, List.mem_singleton]
  rintro rfl
  rw [toNat_octet (by omega)] at hb
  omega

lemma count_start : (Reader.start ps b).pieces.count (.char c)
    = ps.count (.char c) + [b].count (UInt8.ofNat c.toNat) := by
  by_cases hb : b.toNat < 0x80
  · have hchar : Piece.char (Char.ofNat b.toNat) = .char c ↔ b = UInt8.ofNat c.toNat := by
      rw [Piece.char.injEq, ofNat_eq_iff hc.2 hb, eq_comm]
    simp [start_of_lt hb, List.count_cons, hchar]
  · rw [start_of_le (by omega)]
    cases beginning? b.toNat <;> simp [count_octet hc (b := b) (by omega)]

/-- One octet adds a character of ASCII exactly if it stands for that character. -/
lemma count_step (hr : r.IsLong) : (r.step b).pieces.count (.char c)
    = r.pieces.count (.char c) + [b].count (UInt8.ofNat c.toNat) := by
  obtain ⟨ps, _ | s⟩ := r
  · exact count_start hc
  have hs := hr s rfl
  have := hs.low_ge
  by_cases hrange : s.low ≤ b.toNat ∧ b.toNat ≤ s.high
  · simp only [Reader.step, hrange, and_self, if_true, count_octet hc (b := b) (by omega)]
    split_ifs with hlast
    · have := hs.last_ge hlast
      have hchar : Char.ofNat (64 * s.code + (b.toNat - 0x80)) ≠ c := by
        intro h
        have := toNat_ofNat (64 * s.code + (b.toNat - 0x80))
        rw [h] at this
        omega
      exact List.count_cons_of_ne (mt Piece.char.inj hchar)
    · rfl
  · simp only [Reader.step, hrange, if_false]
    rw [count_start hc, List.count_cons_of_ne (by simp)]

lemma count_finish_foldl (bs : List UInt8) (hr : r.IsLong) :
    (bs.foldl Reader.step r).finish.count (.char c)
      = r.pieces.count (.char c) + bs.count (UInt8.ofNat c.toNat) := by
  induction bs generalizing r with
  | nil =>
    obtain ⟨ps, _ | s⟩ := r <;> simp [Reader.finish]
  | cons b bs ih =>
    rw [List.foldl_cons, ih (hr.step b), count_step hc hr, Nat.add_assoc, ← List.count_append]
    rfl

/-- Characters of ASCII other than the null character stand for themselves, in whatever octets. -/
theorem count_decodeLossy (bs : List UInt8) :
    (decodeLossy bs).count c = bs.count (UInt8.ofNat c.toNat) := by
  have hpieces := count_finish_foldl hc bs (r := ⟨[], none⟩) (by rintro s ⟨⟩)
  rw [← pieces] at hpieces
  rw [decodeLossy, List.count_eq_countP, List.countP_map, ← Nat.zero_add (bs.count _)]
  rw [← List.count_nil (a := Piece.char c), ← hpieces, List.count_eq_countP]
  refine List.countP_congr fun piece _ => ?_
  have hreplacement : replacement ≠ c := by
    rintro rfl
    exact absurd hc.2 (by decide)
  cases piece <;> simp [hreplacement]

theorem mem_decodeLossy_iff {bs : List UInt8} :
    c ∈ decodeLossy bs ↔ UInt8.ofNat c.toNat ∈ bs := by
  rw [← List.count_pos_iff, count_decodeLossy hc, List.count_pos_iff]

/-- The octet of a character of ASCII is found only in the encoding of that character. -/
lemma mem_encode_iff {cs : List Char} :
    UInt8.ofNat c.toNat ∈ encode cs ↔ c ∈ cs := by
  rw [← mem_decodeLossy_iff hc, decodeLossy_encode]

end Ascii

/-! ### Octets that are text -/

variable {bs : List UInt8} {cs : List Char} {p : Piece}

lemma encodeChar_one (h : b.toNat < 0x80) : encodeChar (Char.ofNat b.toNat) = [b] := by
  simp only [encodeChar, toNat_ofNat_of_lt h, if_pos h, UInt8.ofNat_toNat]

/-- The octets that lead from a beginning to a character. -/
inductive Completes : Beginning → List UInt8 → Char → Prop where
  | last {low high code width : Nat} {b : UInt8} (hb : low ≤ b.toNat ∧ b.toNat ≤ high) :
      Completes ⟨1, low, high, code, width⟩ [b] (Char.ofNat (64 * code + (b.toNat - 0x80)))
  | next {missing low high code width : Nat} {b : UInt8} {bs : List UInt8} {c : Char}
      (hmissing : missing ≠ 1) (hb : low ≤ b.toNat ∧ b.toNat ≤ high)
      (h : Completes ⟨missing - 1, 0x80, 0xBF, 64 * code + (b.toNat - 0x80), width + 1⟩ bs c) :
      Completes ⟨missing, low, high, code, width⟩ (b :: bs) c

lemma Completes.of_one {low high code width : Nat}
    (h : Completes ⟨1, low, high, code, width⟩ bs c) :
    ∃ b, bs = [b] ∧ low ≤ b.toNat ∧ b.toNat ≤ high
      ∧ c = Char.ofNat (64 * code + (b.toNat - 0x80)) := by
  cases h with
  | last hb => exact ⟨_, rfl, hb.1, hb.2, rfl⟩
  | next hmissing => exact absurd rfl hmissing

lemma Completes.of_succ {missing low high code width : Nat}
    (h : Completes ⟨missing + 2, low, high, code, width⟩ bs c) :
    ∃ b bs', bs = b :: bs' ∧ low ≤ b.toNat ∧ b.toNat ≤ high
      ∧ Completes ⟨missing + 1, 0x80, 0xBF, 64 * code + (b.toNat - 0x80), width + 1⟩ bs' c := by
  cases h with
  | next _ hb h => exact ⟨_, _, rfl, hb.1, hb.2, h⟩

/-- Octets that complete what one of two octets begins. -/
lemma Completes.encodeChar_two {x : Nat} (h : Completes ⟨1, 0x80, 0xBF, x, 1⟩ bs c)
    (hb : b.toNat = 0xC0 + x) (hx : 2 ≤ x ∧ x < 32) : encodeChar c = b :: bs := by
  obtain ⟨b₁, rfl, hlow₁, hhigh₁, hc⟩ := h.of_one
  have hn : c.toNat = 64 * x + (b₁.toNat - 0x80) := by
    rw [hc]
    exact toNat_ofNat_of_isValidChar (Or.inl (by omega))
  have hlead : 0xC0 + c.toNat / 64 = b.toNat := by omega
  have hlast : 0x80 + c.toNat % 64 = b₁.toNat := by omega
  rw [encodeChar, if_neg (by omega), if_pos (by omega), hlead, hlast]
  simp only [UInt8.ofNat_toNat]

/-- Octets that complete what one of three octets begins. The bounds of the second octet leave out
what fewer octets encode, and surrogates. -/
lemma Completes.encodeChar_three {x low high : Nat} (h : Completes ⟨2, low, high, x, 1⟩ bs c)
    (hb : b.toNat = 0xE0 + x) (hx : x < 16) (hlow : 0x80 ≤ low) (hhigh : high ≤ 0xBF)
    (hshort : x = 0 → 0xA0 ≤ low) (hsurrogate : x = 13 → high ≤ 0x9F) :
    encodeChar c = b :: bs := by
  obtain ⟨b₁, bs, rfl, hlow₁, hhigh₁, h⟩ := h.of_succ
  obtain ⟨b₂, rfl, hlow₂, hhigh₂, hc⟩ := h.of_one
  have hn : c.toNat = 64 * (64 * x + (b₁.toNat - 0x80)) + (b₂.toNat - 0x80) := by
    rw [hc]
    apply toNat_ofNat_of_isValidChar
    rw [Nat.isValidChar]
    omega
  have hlead : 0xE0 + c.toNat / 4096 = b.toNat := by omega
  have hnext : 0x80 + c.toNat / 64 % 64 = b₁.toNat := by omega
  have hlast : 0x80 + c.toNat % 64 = b₂.toNat := by omega
  rw [encodeChar, if_neg (by omega), if_neg (by omega), if_pos (by omega), hlead, hnext, hlast]
  simp only [UInt8.ofNat_toNat]

/-- Octets that complete what one of four octets begins. The bounds of the second octet leave out
what fewer octets encode, and what lies above the last code point. -/
lemma Completes.encodeChar_four {x low high : Nat} (h : Completes ⟨3, low, high, x, 1⟩ bs c)
    (hb : b.toNat = 0xF0 + x) (hx : x < 5) (hlow : 0x80 ≤ low) (hhigh : high ≤ 0xBF)
    (hshort : x = 0 → 0x90 ≤ low) (hlarge : x = 4 → high ≤ 0x8F) :
    encodeChar c = b :: bs := by
  obtain ⟨b₁, bs, rfl, hlow₁, hhigh₁, h⟩ := h.of_succ
  obtain ⟨b₂, bs, rfl, hlow₂, hhigh₂, h⟩ := h.of_succ
  obtain ⟨b₃, rfl, hlow₃, hhigh₃, hc⟩ := h.of_one
  have hn : c.toNat =
      64 * (64 * (64 * x + (b₁.toNat - 0x80)) + (b₂.toNat - 0x80)) + (b₃.toNat - 0x80) := by
    rw [hc]
    exact toNat_ofNat_of_isValidChar (Or.inr ⟨by omega, by omega⟩)
  have hlead : 0xF0 + c.toNat / 262144 = b.toNat := by omega
  have hnext : 0x80 + c.toNat / 4096 % 64 = b₁.toNat := by omega
  have hthird : 0x80 + c.toNat / 64 % 64 = b₂.toNat := by omega
  have hlast : 0x80 + c.toNat % 64 = b₃.toNat := by omega
  rw [encodeChar, if_neg (by omega), if_neg (by omega), if_neg (by omega), hlead, hnext, hthird,
    hlast]
  simp only [UInt8.ofNat_toNat]

/-- A leading octet and the octets that complete it encode the character. -/
lemma Completes.encodeChar_eq (hs : beginning? b.toNat = some s) (h : Completes s bs c) :
    encodeChar c = b :: bs := by
  unfold beginning? at hs
  split_ifs at hs with htwo hshort hsurrogate hthree hshort' hfour hlarge <;> cases hs
  · exact h.encodeChar_two (by omega) (by omega)
  · exact h.encodeChar_three (by omega) (by omega) (by omega) (by omega) (by omega) (by omega)
  · exact h.encodeChar_three (by omega) (by omega) (by omega) (by omega) (by omega) (by omega)
  · exact h.encodeChar_three (by omega) (by omega) (by omega) (by omega) (by omega) (by omega)
  · exact h.encodeChar_four (by omega) (by omega) (by omega) (by omega) (by omega) (by omega)
  · exact h.encodeChar_four (by omega) (by omega) (by omega) (by omega) (by omega) (by omega)
  · exact h.encodeChar_four (by omega) (by omega) (by omega) (by omega) (by omega) (by omega)

/-! ### Reading without a fault -/

lemma mem_start (hp : p ∈ ps) : p ∈ (Reader.start ps b).pieces := by
  by_cases hb : b.toNat < 0x80
  · rw [start_of_lt hb]
    exact List.mem_cons_of_mem _ hp
  · rw [start_of_le (by omega)]
    split
    · exact hp
    · exact List.mem_cons_of_mem _ hp

lemma mem_step {r : Reader} (hp : p ∈ r.pieces) : p ∈ (r.step b).pieces := by
  obtain ⟨ps, _ | s⟩ := r
  · exact mem_start hp
  · simp only [Reader.step]
    split_ifs
    · exact List.mem_cons_of_mem _ hp
    · exact hp
    · exact mem_start (List.mem_cons_of_mem _ hp)

/-- A piece that was read is one of the pieces in the end. -/
lemma mem_finish_foldl {r : Reader} (hp : p ∈ r.pieces) :
    p ∈ (bs.foldl Reader.step r).finish := by
  induction bs generalizing r with
  | nil =>
    obtain ⟨ps, _ | s⟩ := r
    · exact List.mem_reverse.mpr hp
    · exact List.mem_reverse.mpr (List.mem_cons_of_mem _ hp)
  | cons b bs ih => exact ih (mem_step hp)

/-- A piece that is a character. -/
def Piece.IsChar : Piece → Prop
  | .char _ => True
  | _ => False

/-- Octets that are read without a fault are the encoding of a text, or, where an encoding has
begun, they complete it first. -/
lemma exists_encode_of_isChar (bs : List UInt8) :
    (∀ ps, (∀ p ∈ (bs.foldl Reader.step ⟨ps, none⟩).finish, p.IsChar) → ∃ cs, encode cs = bs)
      ∧ ∀ ps s, (∀ p ∈ (bs.foldl Reader.step ⟨ps, some s⟩).finish, p.IsChar) →
        ∃ tail c cs, Completes s tail c ∧ tail ++ encode cs = bs := by
  induction bs with
  | nil =>
    refine ⟨fun _ _ => ⟨[], rfl⟩, fun ps s h => ?_⟩
    exact (h (.incomplete s.width) (by simp [Reader.finish])).elim
  | cons b bs ih =>
    obtain ⟨ihnone, ihsome⟩ := ih
    have hstart : ∀ ps, (∀ p ∈ (bs.foldl Reader.step (Reader.start ps b)).finish, p.IsChar) →
        ∃ cs, encode cs = b :: bs := by
      intro ps h
      by_cases hb : b.toNat < 0x80
      · rw [start_of_lt hb] at h
        obtain ⟨cs, rfl⟩ := ihnone _ h
        exact ⟨Char.ofNat b.toNat :: cs, by simp [encode, encodeChar_one hb]⟩
      · rw [start_of_le (by omega)] at h
        cases hs : beginning? b.toNat with
        | none =>
          rw [hs] at h
          exact (h (.invalid 1) (mem_finish_foldl List.mem_cons_self)).elim
        | some s =>
          rw [hs] at h
          obtain ⟨tail, c, cs, hc, rfl⟩ := ihsome _ _ h
          exact ⟨c :: cs, by simp [encode, hc.encodeChar_eq hs]⟩
    refine ⟨hstart, fun ps s h => ?_⟩
    obtain ⟨missing, low, high, code, width⟩ := s
    rw [List.foldl_cons, Reader.step] at h
    dsimp only at h
    split_ifs at h with hrange hmissing
    · subst hmissing
      obtain ⟨cs, rfl⟩ := ihnone _ h
      exact ⟨[b], _, cs, .last hrange, rfl⟩
    · obtain ⟨tail, c, cs, hc, rfl⟩ := ihsome _ _ h
      exact ⟨b :: tail, c, cs, .next hmissing hrange hc, rfl⟩
    · have hinvalid := mem_start (b := b) (List.mem_cons_self (a := Piece.invalid width) (l := ps))
      exact (h _ (mem_finish_foldl hinvalid)).elim

lemma collect_eq_ok_iff {offset : Nat} {done : List Char} :
    decode?.collect offset done ps = .ok cs ↔
      ∃ rest, ps = rest.map .char ∧ cs = done.reverse ++ rest := by
  induction ps generalizing offset done with
  | nil => simp [decode?.collect, eq_comm]
  | cons p ps ih =>
    cases p with
    | char c =>
      rw [decode?.collect, ih]
      constructor
      · rintro ⟨rest, rfl, rfl⟩
        exact ⟨c :: rest, rfl, by simp⟩
      · rintro ⟨_ | ⟨d, rest⟩, h, rfl⟩
        · cases h
        · cases h
          exact ⟨rest, rfl, by simp⟩
    | invalid width =>
      simp [decode?.collect, eq_comm (a := Piece.invalid width :: ps), List.map_eq_cons_iff]
    | incomplete width =>
      simp [decode?.collect, eq_comm (a := Piece.incomplete width :: ps), List.map_eq_cons_iff]

/-- Octets are read as text exactly if they are its encoding. -/
theorem decode?_eq_ok_iff : decode? bs = .ok cs ↔ encode cs = bs := by
  have hpieces : decode? bs = .ok cs ↔ pieces bs = cs.map .char := by
    rw [decode?, collect_eq_ok_iff]
    simp
  rw [hpieces]
  constructor
  · intro h
    obtain ⟨cs', rfl⟩ : ∃ cs', encode cs' = bs := by
      refine (exists_encode_of_isChar bs).1 [] fun p hp => ?_
      rw [← pieces, h] at hp
      obtain ⟨c, -, rfl⟩ := List.mem_map.mp hp
      trivial
    rw [pieces_encode] at h
    rw [(List.map_injective_iff.mpr fun c d h => Piece.char.inj h) h]
  · rintro rfl
    exact pieces_encode cs

end StubResolver.Utf8
