import StubResolver.Proofs.Wire.Framing
import StubResolver.Proofs.Wire.Outcome

/-!
# Reading goes forward

What is read never ends in front of where it begins. Numbers that were read stand where they were
read, and a sequence is read as its first element and then the others.
-/

namespace StubResolver

open Packet

/-- Inside of a packet, octets stand everywhere. -/
lemma Packet.exists_holds {p : Packet} {i n : Nat} (h : i + n ≤ p.size) :
    ∃ s : Octets, s.length = n ∧ Holds p i s := by
  refine ⟨(p.toList.drop i).take n, ?_, List.take_prefix _ _⟩
  rw [List.length_take, List.length_drop, Array.length_toList]
  omega

namespace Decoder

variable {α β : Type} {d : Decoder α} {f : α → Decoder β}

/-- What is read never ends in front of where it begins. -/
def Advances (d : Decoder α) : Prop := ∀ p i a j, d p i = .ok (a, j) → i ≤ j

lemma advances_pure (a : α) : (pure a : Decoder α).Advances := by
  rintro p i b j ⟨⟩
  exact Nat.le_refl i

lemma advances_fail (e : Error) : (fail e : Decoder α).Advances := by
  rintro p i a j ⟨⟩

lemma Advances.bind (hd : d.Advances) (hf : ∀ a, (f a).Advances) : (d >>= f).Advances := by
  intro p i b k h
  obtain ⟨a, j, ha, hb⟩ := bind_eq_ok h
  exact Nat.le_trans (hd p i a j ha) (hf a p j b k hb)

lemma Advances.bind_pure (hd : d.Advances) (g : α → β) :
    (d >>= fun a => pure (g a)).Advances :=
  hd.bind fun a => advances_pure (g a)

lemma advances_octet : octet.Advances := by
  intro p i b j h
  obtain ⟨-, rfl⟩ := octet_eq_ok h
  exact Nat.le_succ i

lemma advances_vector (n : Nat) : (vector n).Advances := by
  intro p i v j h
  simp only [vector] at h
  split_ifs at h
  cases h
  exact Nat.le_add_right i n

lemma advances_uint16 : uint16.Advances :=
  advances_octet.bind fun _ => advances_octet.bind_pure _

lemma advances_uint32 : uint32.Advances :=
  advances_octet.bind fun _ => advances_octet.bind fun _ => advances_octet.bind fun _ =>
    advances_octet.bind_pure _

/-! ### Numbers that were read -/

section

variable {p : Packet} {i j : Nat}

lemma holds_of_uint16 {n : UInt16} (h : uint16 p i = .ok (n, j)) :
    Holds p i (Octets.ofUInt16 n) ∧ j = i + 2 := by
  obtain ⟨rfl, high, low, hhigh, hlow, rfl⟩ := uint16_eq_ok h
  have hoctets : Octets.ofUInt16 (Octets.toUInt16 high low) = [high, low] := by
    have := high.toNat_lt
    have := low.toNat_lt
    simp only [Octets.ofUInt16, Octets.toUInt16, ← UInt8.toNat_inj, List.cons.injEq, and_true,
      UInt16.toNat_ofNat', UInt8.toNat_ofNat']
    omega
  rw [hoctets]
  exact ⟨holds_cons.mpr ⟨hhigh, holds_cons.mpr ⟨hlow, holds_nil⟩⟩, rfl⟩

lemma holds_of_uint32 {n : UInt32} (h : uint32 p i = .ok (n, j)) :
    Holds p i (Octets.ofUInt32 n) ∧ j = i + 4 := by
  obtain ⟨a, _, ha, h⟩ := bind_eq_ok h
  obtain ⟨b, _, hb, h⟩ := bind_eq_ok h
  obtain ⟨c, _, hc, h⟩ := bind_eq_ok h
  obtain ⟨d, _, hd, h⟩ := bind_eq_ok h
  cases h
  obtain ⟨ha', rfl⟩ := octet_eq_ok ha
  obtain ⟨hb', rfl⟩ := octet_eq_ok hb
  obtain ⟨hc', rfl⟩ := octet_eq_ok hc
  obtain ⟨hd', rfl⟩ := octet_eq_ok hd
  have hoctets : Octets.ofUInt32 (Octets.toUInt32 a b c d) = [a, b, c, d] := by
    have := a.toNat_lt
    have := b.toNat_lt
    have := c.toNat_lt
    have := d.toNat_lt
    simp only [Octets.ofUInt32, Octets.toUInt32, ← UInt8.toNat_inj, List.cons.injEq, and_true,
      UInt32.toNat_ofNat', UInt8.toNat_ofNat']
    omega
  rw [hoctets]
  exact ⟨holds_cons.mpr ⟨ha', holds_cons.mpr ⟨hb', holds_cons.mpr ⟨hc', holds_cons.mpr
    ⟨hd', holds_nil⟩⟩⟩⟩, rfl⟩

end

/-! ### Sequences -/

/-- The elements that were read before stand in front of those that are read. -/
lemma replicateOnto_eq_map (d : Decoder α) (n : Nat) (done : List α) (p : Packet) (i : Nat) :
    d.replicateOnto n done p i
      = (replicate n d p i).map fun r => (done.reverse ++ r.1, r.2) := by
  unfold replicate
  induction n generalizing done i with
  | zero => simp [replicateOnto, Except.map]
  | succ n ih =>
    simp only [replicateOnto]
    cases d p i with
    | error e => rfl
    | ok r =>
      dsimp only
      rw [ih (r.1 :: done), ih [r.1]]
      cases replicateOnto d n [] p r.2 with
      | error e => rfl
      | ok rest => simp [Except.map]

/-- Where the first element is read, the others are read behind it. -/
lemma replicate_succ_of_ok {p : Packet} {i j : Nat} {a : α} (h : d p i = .ok (a, j)) (n : Nat) :
    replicate (n + 1) d p i = (replicate n d p j).map fun r => (a :: r.1, r.2) := by
  simp only [replicate, replicateOnto, h]
  exact replicateOnto_eq_map d n [a] p j

end Decoder

end StubResolver
