import Mathlib.Data.Nat.Bitwise
import StubResolver.Proofs.Name.Text
import StubResolver.Proofs.Name.Walk

/-!
# Bits behind the last bit of a label

A label of bits takes up whole octets. The bits that it leaves over are kept as they are written,
on the wire or in hexadecimal digits, and they count when labels are compared. So a name that is
read has zeros there exactly if it is written with zeros, and only then the bits of the labels alone
decide whether they are equal.
-/

namespace StubResolver

/-! ### Bits of octets -/

/-- A bit of octets, beginning with the most significant one of the first octet. There are zeros
behind the last octet. -/
def Octets.bit (octets : Octets) (k : Nat) : Bool :=
  (octets[k / 8]?.getD 0).toNat.testBit (7 - k % 8)

namespace Octets

variable {octets octets' : Octets} {b b' : UInt8} {k : Nat}

lemma bit_cons_of_lt (h : k < 8) : bit (b :: octets) k = b.toNat.testBit (7 - k) := by
  simp [bit, Nat.div_eq_of_lt h, Nat.mod_eq_of_lt h]

@[simp] lemma bit_cons_add : bit (b :: octets) (k + 8) = octets.bit k := by
  simp [bit]

lemma bit_of_le (h : 8 * octets.length ≤ k) : octets.bit k = false := by
  have hnone : octets[k / 8]? = none := List.getElem?_eq_none (by omega)
  simp [bit, hnone]

lemma octet_eq_of_bit (h : ∀ k < 8, b.toNat.testBit (7 - k) = b'.toNat.testBit (7 - k)) :
    b = b' := by
  rw [← UInt8.toNat_inj]
  apply Nat.eq_of_testBit_eq
  intro i
  by_cases hi : i < 8
  · have := h (7 - i) (by omega)
    rwa [Nat.sub_sub_self (by omega)] at this
  · have hsmall (b : UInt8) : b.toNat < 2 ^ i :=
      Nat.lt_of_lt_of_le b.toNat_lt (Nat.pow_le_pow_right (by decide) (Nat.not_lt.mp hi))
    rw [Nat.testBit_lt_two_pow (hsmall b), Nat.testBit_lt_two_pow (hsmall b')]

/-- So many octets are told apart by their bits. -/
lemma eq_iff_bit (hlen : octets.length = octets'.length) :
    octets = octets' ↔ ∀ k < 8 * octets.length, octets.bit k = octets'.bit k := by
  constructor
  · rintro rfl _ _
    rfl
  · intro h
    induction octets generalizing octets' with
    | nil => exact (List.length_eq_zero_iff.mp hlen.symm).symm
    | cons b octets ih =>
      obtain ⟨b', octets', rfl⟩ := List.exists_cons_of_length_eq_add_one hlen.symm
      have hfirst : b = b' := by
        refine octet_eq_of_bit fun k hk => ?_
        have := h k (by simp; omega)
        rwa [bit_cons_of_lt hk, bit_cons_of_lt hk] at this
      have hrest : octets = octets' := by
        refine ih (by simpa using hlen) fun k hk => ?_
        have := h (k + 8) (by simp; omega)
        rwa [bit_cons_add, bit_cons_add] at this
      rw [hfirst, hrest]

end Octets

/-- Octets in a packet have their bits in the packet. -/
lemma Packet.Holds.bit_eq {p : Packet} {i k : Nat} {octets : Octets} (h : p.Holds i octets)
    (hk : k < 8 * octets.length) : Octets.bit p.toList (8 * i + k) = octets.bit k := by
  obtain ⟨rest, hrest⟩ := h
  have hoctet : p.toList[i + k / 8]? = octets[k / 8]? := by
    rw [← List.getElem?_drop, ← hrest, List.getElem?_append_left (by omega)]
  have hdiv : (8 * i + k) / 8 = i + k / 8 := by omega
  have hmod : (8 * i + k) % 8 = k % 8 := by omega
  rw [Octets.bit, Octets.bit, hdiv, hmod, hoctet]

/-! ### Bits of digits -/

namespace Hex

/-- A bit of hexadecimal digits, beginning with the most significant one of the first digit. -/
def bit (digits : List Char) (k : Nat) : Bool :=
  ((digits[k / 4]?.bind digit?).getD 0).testBit (3 - k % 4)

lemma digit?_lt {c : Char} {n : Nat} (h : digit? c = some n) : n < 16 := by
  have hle {d : Char} (hd : c ≤ d) : c.toNat ≤ d.toNat := UInt32.le_iff_toNat_le.mp hd
  unfold digit? at h
  split_ifs at h with hdecimal hlower hupper <;> cases h
  · have : c.toNat ≤ 57 := hle hdecimal.2
    change c.toNat - 48 < 16
    omega
  · have : c.toNat ≤ 102 := hle hlower.2
    change c.toNat - 97 + 10 < 16
    omega
  · have : c.toNat ≤ 70 := hle hupper.2
    change c.toNat - 65 + 10 < 16
    omega

/-- Digits have the bits of the octets that they write. -/
lemma Writes.bit_eq {digits : List Char} {octets : Octets} (h : Writes digits octets) (k : Nat) :
    octets.bit k = bit digits k := by
  induction h generalizing k with
  | nil => simp [Octets.bit, bit]
  | @cons high low n m digits octets hhigh hlow _ ih =>
    have hn := digit?_lt hhigh
    have hm := digit?_lt hlow
    have hb : (UInt8.ofNat (16 * n + m)).toNat = 2 ^ 4 * n + m :=
      UInt8.toNat_ofNat_of_lt' (show 16 * n + m < 256 by omega)
    by_cases hfirst : k < 4
    · have hdiv : k / 4 = 0 := by omega
      have hhalf : 7 - k - 4 = 3 - k % 4 := by omega
      rw [Octets.bit_cons_of_lt (by omega), hb, Nat.testBit_two_pow_mul_add n hm,
        if_neg (by omega), hhalf]
      simp [bit, hdiv, hhigh]
    by_cases hsecond : k < 8
    · have hdiv : k / 4 = 1 := by omega
      have hhalf : 7 - k = 3 - k % 4 := by omega
      rw [Octets.bit_cons_of_lt hsecond, hb, Nat.testBit_two_pow_mul_add n hm,
        if_pos (by omega), hhalf]
      simp [bit, hdiv, hlow]
    · obtain ⟨k, rfl⟩ := Nat.exists_eq_add_of_le' (Nat.not_lt.mp hsecond)
      have hdiv : (k + 8) / 4 = k / 4 + 2 := by omega
      have hmod : (k + 8) % 4 = k % 4 := by omega
      rw [Octets.bit_cons_add, ih]
      simp [bit, hdiv, hmod]

end Hex

/-! ### Padded labels -/

namespace Label

variable {octets octets' : Octets} {count count' : Nat} {l : Label}

/-- The bits behind the last bit of a label are zeros. -/
def IsPadded : Label → Prop
  | text _ => True
  | bits octets count => ∀ k, count ≤ k → octets.bit k = false

lemma isPadded_bits_iff (h : octets.length = octetsFor count) : (bits octets count).IsPadded ↔
    ∀ k, count ≤ k → k < 8 * octetsFor count → octets.bit k = false := by
  constructor
  · intro hpadded k hk _
    exact hpadded k hk
  · intro hpadded k hk
    by_cases hlarge : k < 8 * octetsFor count
    · exact hpadded k hk hlarge
    · exact Octets.bit_of_le (by omega)

/-- Labels of bits are equal exactly if they have the same number of bits and all bits of their
octets are the same. -/
lemma fold_bits_eq_iff (h : (bits octets count).IsValid) (h' : (bits octets' count').IsValid) :
    (bits octets count).fold = (bits octets' count').fold ↔
      count = count' ∧ ∀ k < 8 * octetsFor count, octets.bit k = octets'.bit k := by
  obtain ⟨-, -, hlen⟩ := h
  obtain ⟨-, -, hlen'⟩ := h'
  simp only [fold, bits.injEq]
  constructor
  · rintro ⟨rfl, rfl⟩
    exact ⟨rfl, fun _ _ => rfl⟩
  · rintro ⟨rfl, hbits⟩
    exact ⟨(Octets.eq_iff_bit (hlen.trans hlen'.symm)).mpr (hlen ▸ hbits), rfl⟩

/-- If the labels are padded, their own bits decide. -/
lemma fold_bits_eq_iff_of_isPadded (h : (bits octets count).IsValid)
    (h' : (bits octets' count').IsValid) (hpadded : (bits octets count).IsPadded)
    (hpadded' : (bits octets' count').IsPadded) :
    (bits octets count).fold = (bits octets' count').fold ↔
      count = count' ∧ ∀ k < count, octets.bit k = octets'.bit k := by
  rw [fold_bits_eq_iff h h']
  constructor
  · rintro ⟨rfl, hbits⟩
    refine ⟨rfl, fun k hk => hbits k ?_⟩
    unfold octetsFor
    omega
  · rintro ⟨rfl, hbits⟩
    refine ⟨rfl, fun k _ => ?_⟩
    by_cases hk : k < count
    · exact hbits k hk
    · rw [hpadded k (Nat.not_lt.mp hk), hpadded' k (Nat.not_lt.mp hk)]

/-! ### Labels on the wire -/

/-- If a label of bits stands at a position, there are zeros behind its last bit, up to the end of
the octet. -/
def IsPaddedAt (p : Packet) (i : Nat) : Prop :=
  ∀ count, 1 ≤ count → count ≤ maxBits → p[i]? = some bitsMark → p[i + 1]? = some (.ofNat count) →
    ∀ k, count ≤ k → k < 8 * octetsFor count → Octets.bit p.toList (8 * (i + 2) + k) = false

lemma isPaddedAt_of_ne {p : Packet} {i : Nat} (h : p[i]? ≠ some bitsMark) : IsPaddedAt p i :=
  fun _ _ _ hmark => absurd hmark h

lemma ofNat_count_inj (hpos : 1 ≤ count) (hmax : count ≤ maxBits) (hpos' : 1 ≤ count')
    (hmax' : count' ≤ maxBits) (h : UInt8.ofNat count = .ofNat count') : count = count' := by
  have hmod := congrArg UInt8.toNat h
  simp only [UInt8.toNat_ofNat'] at hmod
  unfold maxBits at hmax hmax'
  omega

/-- A label on the wire keeps the bits behind its last bit. -/
lemma isPadded_iff_isPaddedAt {p : Packet} {i : Nat} (hl : l.IsValid) (hp : p.Holds i l.encode) :
    l.IsPadded ↔ IsPaddedAt p i := by
  cases l with
  | text octets =>
    obtain ⟨hmark, -⟩ := Packet.holds_cons.mp hp
    refine ⟨fun _ => isPaddedAt_of_ne ?_, fun _ => trivial⟩
    rw [hmark]
    intro h
    have hlen : octets.length % 256 = 65 := by
      rw [← UInt8.toNat_ofNat', Option.some.inj h]
      rfl
    have hshort : octets.length ≤ 63 := hl.2
    omega
  | bits octets count =>
    obtain ⟨hpos, hmax, hlen⟩ := hl
    obtain ⟨hmark, hp⟩ := Packet.holds_cons.mp hp
    obtain ⟨hcount, hoctets⟩ := Packet.holds_cons.mp hp
    rw [isPadded_bits_iff hlen]
    constructor
    · intro hpadded count' hpos' hmax' _ hcount' k hk hlast
      obtain rfl : count = count' :=
        ofNat_count_inj hpos hmax hpos' hmax' (Option.some.inj (hcount.symm.trans hcount'))
      rw [hoctets.bit_eq (by omega)]
      exact hpadded k hk hlast
    · intro hpadded k hk hlast
      rw [← hoctets.bit_eq (by omega)]
      exact hpadded count hpos hmax hmark hcount k hk hlast

/-! ### Labels in texts -/

/-- If a text writes a label of bits with their number, the digits have zeros behind the last
bit. -/
def IsPaddedText (t : List Char) : Prop :=
  ∀ x digits numeral count, t = '\\' :: '[' :: x :: (digits ++ '/' :: numeral ++ [']']) →
    (∀ c ∈ digits, Hex.isDigit c = true) → Numeral.Writes numeral count →
      ∀ k, count ≤ k → Hex.bit digits k = false

lemma isPaddedText_of_startsWithText {t : List Char} (h : StartsWithText t) : IsPaddedText t := by
  rintro x digits numeral count rfl
  exact (h ⟨_, rfl⟩).elim

/-- A label in a text keeps the bits behind its last bit. -/
lemma isPadded_iff_isPaddedText {toAscii : Idna.Converter} {t : List Char}
    (h : IsWritten toAscii t l) : l.IsPadded ↔ IsPaddedText t := by
  cases h with
  | verbatim hstart => exact ⟨fun _ => isPaddedText_of_startsWithText hstart, fun _ => trivial⟩
  | internationalised hstart =>
    exact ⟨fun _ => isPaddedText_of_startsWithText hstart, fun _ => trivial⟩
  | bits hbody =>
    cases hbody with
    | @all x digits octets hx h hne hlen =>
      refine ⟨fun _ => ?_, fun _ k hk => Octets.bit_of_le hk⟩
      intro x' digits' numeral count htext
      have hdigits : digits = digits' ++ '/' :: numeral :=
        List.append_cancel_right (List.cons.inj (List.cons.inj (List.cons.inj htext).2).2).2
      have hslash : '/' ∈ digits := by simp [hdigits]
      exact absurd hslash (notMem_of_writes h (by decide))
    | @counted x digits numeral octets count hx h hcount hpos hmax hlen =>
      constructor
      · intro hpadded x' digits' numeral' count' htext hdigits' hcount' k hk
        have hbody : digits ++ '/' :: numeral = digits' ++ '/' :: numeral' :=
          List.append_cancel_right (List.cons.inj (List.cons.inj (List.cons.inj htext).2).2).2
        have hslash' : '/' ∉ digits' := fun hmem => absurd (hdigits' _ hmem) (by decide)
        obtain ⟨rfl, rfl⟩ := append_cons_inj (notMem_of_writes h (by decide)) hslash' hbody
        obtain rfl := hcount.unique hcount'
        rw [← h.bit_eq]
        exact hpadded k hk
      · intro hpadded k hk
        rw [h.bit_eq]
        exact hpadded x digits numeral count (by simp) h.isDigit hcount k hk

end Label

/-! ### Names -/

namespace Name

open Packet

variable {n m : Name} {p : Packet} {i j k hops : Nat} {labels : List Label}

/-- A name whose labels are padded. -/
def IsPadded (n : Name) : Prop := ∀ l ∈ n.labels, l.IsPadded

lemma ne_bitsMark_of_pointsTo {target : Nat} (h : PointsTo p i target) :
    p[i]? ≠ some Label.bitsMark := by
  obtain ⟨htarget, hp⟩ := h
  rw [(holds_cons.mp hp).1]
  intro hmark
  have hvalue : (0xC0 + target / 256) % 256 = 65 := by
    rw [← UInt8.toNat_ofNat', Option.some.inj hmark]
    rfl
  omega

/-- Labels that a walk meets are padded exactly if the packet is wherever the walk comes to. -/
lemma isPadded_iff_of_leadsTo (h : LeadsTo p i labels hops k) (hzero : p[k]? = some 0) :
    (∀ l ∈ labels, l.IsPadded) ↔
      ∀ front hops' j, LeadsTo p i front hops' j → Label.IsPaddedAt p j := by
  induction h with
  | @here i =>
    refine ⟨fun _ front hops' j hfront => ?_, fun _ l hl => absurd hl List.not_mem_nil⟩
    have helement := element_of_zero hzero
    cases hfront with
    | here =>
      apply Label.isPaddedAt_of_ne
      rw [hzero]
      decide
    | label hl hp _ => cases helement.symm.trans (element_of_holds hl hp)
    | pointer hpointer _ _ => cases helement.symm.trans (element_of_pointsTo hpointer)
  | @label i k hops l labels hl hp h ih =>
    rw [List.forall_mem_cons, ih hzero, Label.isPadded_iff_isPaddedAt hl hp]
    constructor
    · rintro ⟨hhere, hrest⟩ front hops' j hfront
      rcases hfront.of_label hl hp with ⟨-, -, rfl⟩ | ⟨rest, -, hfront⟩
      · exact hhere
      · exact hrest _ _ _ hfront
    · intro hall
      exact ⟨hall _ _ _ .here, fun front hops' j hfront => hall _ _ _ (.label hl hp hfront)⟩
  | @pointer i k hops target labels hpointer hback h ih =>
    rw [ih hzero]
    constructor
    · intro hrest front hops' j hfront
      rcases hfront.of_pointer hpointer with ⟨-, -, rfl⟩ | ⟨n, -, -, hfront⟩
      · exact Label.isPaddedAt_of_ne (ne_bitsMark_of_pointsTo hpointer)
      · exact hrest _ _ _ hfront
    · intro hall front hops' j hfront
      exact hall _ _ _ (.pointer hpointer hback hfront)

lemma isPadded_iff_of_forall₂ {toAscii : Idna.Converter} {texts : List (List Char)}
    (h : List.Forall₂ (Label.IsWritten toAscii) texts labels) :
    (∀ l ∈ labels, l.IsPadded) ↔ ∀ t ∈ texts, Label.IsPaddedText t := by
  induction h with
  | nil => simp
  | cons h _ ih =>
    rw [List.forall_mem_cons, List.forall_mem_cons, ih, Label.isPadded_iff_isPaddedText h]

lemma isPadded_iff_of_decoder (h : decoder p i = .ok (n, j)) : n.IsPadded ↔
    ∀ front hops k, LeadsTo p i front hops k → Label.IsPaddedAt p k := by
  obtain ⟨-, hops, k, hlead, -, hzero⟩ := exists_zero_of_decoder h
  exact isPadded_iff_of_leadsTo hlead hzero

lemma exists_texts_of_parse {s : String} (h : Name.parse s = .ok n) : ∃ texts,
    IsSeparated texts s.toList ∧ List.Forall₂ (Label.IsWritten Idna.toAscii) texts n.labels := by
  rcases parse_eq_ok_iff_isWritten.mp h with ⟨hs, rfl⟩ | ⟨texts, -, hs, hlabels⟩
  · exact ⟨[], by simpa [IsSeparated] using hs, .nil⟩
  · exact ⟨texts, hs, hlabels⟩

/-- A name is read, from a packet or from a text. -/
def IsRead (n : Name) : Prop :=
  (∃ p i j, decoder p i = .ok (n, j)) ∨ ∃ s, Name.parse s = .ok n

lemma IsRead.isValid_bits {octets : Octets} {count : Nat} (h : n.IsRead)
    (hl : .bits octets count ∈ n.labels) : (Label.bits octets count).IsValid := by
  rcases h with ⟨p, i, j, hdecode⟩ | ⟨s, hparse⟩
  · exact yields_decoder p i n j hdecode _ hl
  · exact isSized_of_parse hparse _ hl

/-- A name that is read is padded exactly if it is written with zeros behind the last bits of its
labels, wherever in a packet the walk comes to or in the texts of its labels. Two labels of bits are
equal exactly if the bits of all their octets are, for which their own bits are enough where they
are padded. -/
theorem isPadded_iff (n : Name) :
    (∀ p i j, decoder p i = .ok (n, j) →
      (n.IsPadded ↔ ∀ front hops k, LeadsTo p i front hops k → Label.IsPaddedAt p k)) ∧
    (∀ s, Name.parse s = .ok n → ∃ texts, IsSeparated texts s.toList ∧
      List.Forall₂ (Label.IsWritten Idna.toAscii) texts n.labels ∧
      (n.IsPadded ↔ ∀ t ∈ texts, Label.IsPaddedText t)) ∧
    ∀ m octets octets' count count', IsRead n → IsRead m →
      .bits octets count ∈ n.labels → .bits octets' count' ∈ m.labels →
      ((Label.bits octets count).fold = (Label.bits octets' count').fold ↔
        count = count' ∧ ∀ k < 8 * Label.octetsFor count, octets.bit k = octets'.bit k) ∧
      (n.IsPadded → m.IsPadded →
        ((Label.bits octets count).fold = (Label.bits octets' count').fold ↔
          count = count' ∧ ∀ k < count, octets.bit k = octets'.bit k)) := by
  refine ⟨fun p i j h => isPadded_iff_of_decoder h, fun s h => ?_, ?_⟩
  · obtain ⟨texts, hs, hlabels⟩ := exists_texts_of_parse h
    exact ⟨texts, hs, hlabels, isPadded_iff_of_forall₂ hlabels⟩
  · intro m octets octets' count count' hn hm hl hl'
    have hvalid := hn.isValid_bits hl
    have hvalid' := hm.isValid_bits hl'
    exact ⟨Label.fold_bits_eq_iff hvalid hvalid', fun hpadded hpadded' =>
      Label.fold_bits_eq_iff_of_isPadded hvalid hvalid' (hpadded _ hl) (hpadded' _ hl')⟩

/-- A name of four bits, which share an octet with four others. -/
def fourBits (b : UInt8) : Name := ⟨[.bits [b] 4]⟩

lemma decoder_fourBits (b : UInt8) : decoder #[0x41, 4, b, 0] 0 = .ok (fourBits b, 4) := by
  have hvalid : (fourBits b).IsValid :=
    List.forall_mem_singleton.mpr ⟨by decide, by decide, rfl⟩
  exact reads_encode hvalid _ 0 (holds_toArray (fourBits b).encode)

/-- Two hexadecimal digits write four bits and the four others. -/
lemma parse_fourBits {high low : Char} {x y : Nat} (hhigh : Hex.digit? high = some x)
    (hlow : Hex.digit? low = some y) :
    Name.parse (.ofList ['\\', '[', 'x', high, low, '/', '4', ']'])
      = .ok (fourBits (.ofNat (16 * x + y))) := by
  have hfour : Numeral.Writes ['4'] 4 := ⟨['4'], .inl rfl, by simp, by simp, rfl⟩
  have hbody : Label.BitsWritten ('x' :: ([high, low] ++ '/' :: ['4']))
      (.bits [.ofNat (16 * x + y)] 4) :=
    .counted (.inl rfl) (.cons hhigh hlow .nil) hfour (by decide) (by decide) rfl
  rw [parse_eq_ok_iff_isWritten, String.toList_ofList]
  exact .inr ⟨[_], by simp, .inl rfl, .cons (.bits hbody) .nil⟩

lemma isPadded_fourBits : (fourBits 0xF0).IsPadded := by
  have hpadded : (Label.bits [0xF0] 4).IsPadded := by
    rw [Label.isPadded_bits_iff rfl]
    decide
  exact List.forall_mem_singleton.mpr hpadded

theorem isPadded_iff_fourBits :
    let p : Packet := #[0x41, 4, 0xF0, 0]
    let s : String := .ofList ['\\', '[', 'x', 'F', '0', '/', '4', ']']
    decoder p 0 = .ok (fourBits 0xF0, 4) ∧ Name.parse s = .ok (fourBits 0xF0) ∧
      (fourBits 0xF0).IsPadded ∧
      (∀ front hops k, LeadsTo p 0 front hops k → Label.IsPaddedAt p k) ∧
      (∃ texts, IsSeparated texts s.toList ∧ ∀ t ∈ texts, Label.IsPaddedText t) ∧
      ((Label.bits [0xF0] 4).fold = (Label.bits [0xF0] 4).fold ↔
        4 = 4 ∧ ∀ k < 4, Octets.bit [0xF0] k = Octets.bit [0xF0] k) := by
  intro p s
  have hdecode : decoder p 0 = .ok (fourBits 0xF0, 4) := decoder_fourBits 0xF0
  have hparse : Name.parse s = .ok (fourBits 0xF0) :=
    parse_fourBits (x := 15) (y := 0) rfl rfl
  have hread : IsRead (fourBits 0xF0) := .inr ⟨s, hparse⟩
  obtain ⟨hwire, htext, hequal⟩ := isPadded_iff (fourBits 0xF0)
  obtain ⟨texts, hs, -, htexts⟩ := htext s hparse
  have hmem : .bits [0xF0] 4 ∈ (fourBits 0xF0).labels := List.mem_singleton_self _
  exact ⟨hdecode, hparse, isPadded_fourBits, (hwire p 0 4 hdecode).mp isPadded_fourBits,
    ⟨texts, hs, htexts.mp isPadded_fourBits⟩,
    (hequal _ _ _ _ _ hread hread hmem hmem).2 isPadded_fourBits isPadded_fourBits⟩

/-- Four ones that are followed by four others are read as they are, from a packet and from a text,
and are not equal to four ones that are followed by zeros. -/
theorem not_isPadded_of_ones :
    decoder #[0x41, 4, 0xFF, 0] 0 = .ok (fourBits 0xFF, 4) ∧
      decoder #[0x41, 4, 0xF0, 0] 0 = .ok (fourBits 0xF0, 4) ∧
      Name.parse (.ofList ['\\', '[', 'x', 'F', 'F', '/', '4', ']']) = .ok (fourBits 0xFF) ∧
      ¬ (fourBits 0xFF).IsPadded ∧
      (∀ k < 4, Octets.bit [0xFF] k = Octets.bit [0xF0] k) ∧
      (fourBits 0xFF).same (fourBits 0xF0) = false := by
  refine ⟨decoder_fourBits 0xFF, decoder_fourBits 0xF0,
    parse_fourBits (x := 15) (y := 15) rfl rfl, ?_, by decide, rfl⟩
  intro hpadded
  have hbit : Octets.bit [0xFF] 4 = false := hpadded _ (List.mem_singleton_self _) 4 (Nat.le_refl 4)
  cases hbit

end Name

end StubResolver
