import Mathlib.Data.List.Forall2
import Mathlib.Tactic.Common
import StubResolver.Wire.Decoder

/-!
# Framing

A decoder reads an encoding if it takes exactly the octets of the encoding and gives the value,
wherever in a packet the encoding stands and whatever stands around it. Readings of the parts of
an encoding are put together into a reading of the whole.
-/

namespace StubResolver

/-! ### Octets at a position -/

/-- The octets stand in a packet from a position on. -/
def Packet.Holds (p : Packet) (i : Nat) (s : Octets) : Prop := s <+: p.toList.drop i

instance (p : Packet) (i : Nat) (s : Octets) : Decidable (p.Holds i s) :=
  inferInstanceAs (Decidable (s <+: p.toList.drop i))

namespace Packet

variable {p : Packet} {i : Nat} {b : UInt8} {s t : Octets}

@[simp] lemma holds_nil : Holds p i [] := List.nil_prefix

lemma holds_cons : Holds p i (b :: s) ↔ p[i]? = some b ∧ Holds p (i + 1) s := by
  unfold Holds
  rw [List.cons_prefix_iff]
  constructor
  · rintro ⟨rest, hrest, hs⟩
    have hb : p.toList[i]? = some b := by
      rw [← List.head?_drop, hrest]
      rfl
    refine ⟨by simpa using hb, ?_⟩
    rw [← List.tail_drop, hrest]
    exact hs
  · rintro ⟨hb, hs⟩
    obtain ⟨hi, rfl⟩ := Array.getElem?_eq_some_iff.mp hb
    refine ⟨p.toList.drop (i + 1), ?_, hs⟩
    rw [List.drop_eq_getElem_cons (by simpa using hi)]
    simp

/-- Two sequences stand behind each other exactly if their concatenation stands there. -/
lemma holds_append : Holds p i (s ++ t) ↔ Holds p i s ∧ Holds p (i + s.length) t := by
  induction s generalizing i with
  | nil => simp
  | cons b s ih =>
    rw [List.cons_append, holds_cons, holds_cons, ih, and_assoc, List.length_cons]
    rw [show i + 1 + s.length = i + (s.length + 1) by omega]

lemma holds_toArray (s : Octets) : Holds s.toArray 0 s := by simp [Holds]

/-- What stands in a packet fits into what remains of it. -/
lemma Holds.length_le (h : Holds p i s) : s.length ≤ Decoder.remaining p i := by
  have := List.IsPrefix.length_le h
  simpa [Decoder.remaining] using this

lemma Holds.extract_eq (h : Holds p i s) : (p.extract i (i + s.length)).toList = s := by
  rw [Array.toList_extract, List.extract_eq_take_drop, Nat.add_sub_cancel_left]
  exact (List.prefix_iff_eq_take.mp h).symm

end Packet

namespace Octets

@[simp] lemma length_ofUInt16 (n : UInt16) : (ofUInt16 n).length = 2 := rfl

@[simp] lemma length_ofUInt32 (n : UInt32) : (ofUInt32 n).length = 4 := rfl

/-- The number that stands in two octets at a position. -/
def numberAt? (s : Octets) (i : Nat) : Option Nat := do
  let high ← s[i]?
  let low ← s[i + 1]?
  return 256 * high.toNat + low.toNat

lemma numberAt?_ofUInt16 (n : UInt16) (rest : Octets) :
    numberAt? (ofUInt16 n ++ rest) 0 = some n.toNat := by
  have := n.toNat_lt
  simp [numberAt?, ofUInt16]
  omega

lemma numberAt?_append {front rest : Octets} {i : Nat} (h : front.length ≤ i) :
    numberAt? (front ++ rest) i = numberAt? rest (i - front.length) := by
  rw [numberAt?, numberAt?, List.getElem?_append_right h,
    List.getElem?_append_right (Nat.le_add_right_of_le h), Nat.sub_add_comm h]

lemma extract_append {front s rest : Octets} {start stop : Nat} (hstart : front.length = start)
    (hstop : start + s.length = stop) : (front ++ (s ++ rest)).extract start stop = s := by
  subst hstart hstop
  simp [List.extract_eq_take_drop]

end Octets

/-! ### Reading an encoding -/

namespace Decoder

open Packet

variable {α β : Type}

/-- A decoder takes exactly the octets of an encoding, wherever they stand, and gives the value
that they encode. -/
def Reads (d : Decoder α) (s : Octets) (a : α) : Prop :=
  ∀ p i, Holds p i s → d p i = .ok (a, i + s.length)

lemma bind_of_ok {d : Decoder α} {f : α → Decoder β} {p : Packet} {i j : Nat} {a : α}
    (h : d p i = .ok (a, j)) : (d >>= f) p i = f a p j := by
  simp only [bind, h]

lemma reads_pure (a : α) : (pure a : Decoder α).Reads [] a := fun _ _ _ => rfl

/-- The parts of an encoding are read one behind the other. -/
lemma Reads.bind {d : Decoder α} {f : α → Decoder β} {s t : Octets} {a : α} {b : β}
    (hd : d.Reads s a) (hf : (f a).Reads t b) : (d >>= f).Reads (s ++ t) b := by
  intro p i h
  obtain ⟨hs, ht⟩ := holds_append.mp h
  rw [bind_of_ok (hd p i hs), hf p _ ht, List.length_append, Nat.add_assoc]

/-- A value that is computed from a part takes no octets. -/
lemma Reads.bind_pure {d : Decoder α} {s : Octets} {a : α} (hd : d.Reads s a) (f : α → β) :
    (d >>= fun a => pure (f a)).Reads s (f a) := by
  simpa using hd.bind (f := fun a => pure (f a)) (reads_pure (f a))

/-- A decoder that reads to the end of a packet takes exactly the octets of an encoding, if the
packet ends with them, and gives the value that they encode. -/
def Finishes (d : Decoder α) (s : Octets) (a : α) : Prop :=
  ∀ p i, Holds p i s → i + s.length = p.size → d p i = .ok (a, p.size)

lemma Reads.bind_finishes {d : Decoder α} {f : α → Decoder β} {s t : Octets} {a : α} {b : β}
    (hd : d.Reads s a) (hf : (f a).Finishes t b) : (d >>= f).Finishes (s ++ t) b := by
  intro p i h hend
  obtain ⟨hs, ht⟩ := holds_append.mp h
  rw [bind_of_ok (hd p i hs)]
  refine hf p _ ht ?_
  rw [← hend, List.length_append, Nat.add_assoc]

lemma Finishes.bind_pure {d : Decoder α} {s : Octets} {a : α} (hd : d.Finishes s a) (f : α → β) :
    (d >>= fun a => pure (f a)).Finishes s (f a) := by
  intro p i h hend
  rw [bind_of_ok (hd p i h hend)]
  rfl

/-! ### Numbers and octets -/

lemma octet_of_getElem? {p : Packet} {i : Nat} {b : UInt8} (h : p[i]? = some b) :
    octet p i = .ok (b, i + 1) := by
  simp only [octet, h]

lemma reads_octet (b : UInt8) : octet.Reads [b] b := by
  intro p i h
  exact octet_of_getElem? (holds_cons.mp h).1

lemma reads_octets (s : Octets) : (octets s.length).Reads s s := by
  intro p i h
  have hsize : (p.extract i (i + s.length)).size = s.length := by
    rw [← Array.length_toList, h.extract_eq]
  simp only [octets, hsize, h.extract_eq, if_true]

/-- Octets are read exactly where they stand. -/
lemma octets_eq_ok_iff {n : Nat} {p : Packet} {i j : Nat} {s : Octets} :
    octets n p i = .ok (s, j) ↔ s.length = n ∧ j = i + n ∧ Holds p i s := by
  constructor
  · intro h
    simp only [octets] at h
    split_ifs at h with hsize
    obtain ⟨rfl, rfl⟩ := Prod.mk.inj (Except.ok.inj h)
    refine ⟨by rw [Array.length_toList, hsize], rfl, ?_⟩
    rw [Holds, Array.toList_extract, List.extract_eq_take_drop]
    exact List.take_prefix _ _
  · rintro ⟨rfl, rfl, h⟩
    exact reads_octets s p i h

lemma reads_vector {n : Nat} (v : Vector UInt8 n) : (vector n).Reads v.toList v := by
  intro p i h
  have hlist : (p.extract i (i + n)).toList = v.toList := by
    simpa using h.extract_eq
  have hsize : (p.extract i (i + n)).size = n := by
    rw [← Array.length_toList, hlist, Vector.length_toList]
  have hv : (⟨p.extract i (i + n), hsize⟩ : Vector UInt8 n) = v := by
    rw [← Vector.toList_inj]
    exact hlist
  simp only [vector, hsize, dif_pos, hv, Vector.length_toList]

lemma reads_uint16 (n : UInt16) : uint16.Reads (Octets.ofUInt16 n) n := by
  have h := (reads_octet (.ofNat (n.toNat / 256))).bind
    (f := fun high => octet >>= fun low => pure (Octets.toUInt16 high low))
    ((reads_octet (.ofNat n.toNat)).bind_pure _)
  rwa [Octets.toUInt16_ofUInt16] at h

lemma reads_uint32 (n : UInt32) : uint32.Reads (Octets.ofUInt32 n) n := by
  have h := (reads_octet (.ofNat (n.toNat / 16777216))).bind
    (f := fun a => octet >>= fun b => octet >>= fun c => octet >>= fun d =>
      pure (Octets.toUInt32 a b c d))
    ((reads_octet (.ofNat (n.toNat / 65536))).bind ((reads_octet (.ofNat (n.toNat / 256))).bind
      ((reads_octet (.ofNat n.toNat)).bind_pure _)))
  rwa [Octets.toUInt32_ofUInt32] at h

/-! ### Sequences -/

lemma replicateOnto_of_reads {d : Decoder α} {ss : List Octets} {as : List α}
    (h : List.Forall₂ d.Reads ss as) (done : List α) :
    (d.replicateOnto as.length done).Reads ss.flatten (done.reverse ++ as) := by
  induction h generalizing done with
  | nil => intro p i _; simp [replicateOnto]
  | @cons s a ss as hs _ ih =>
    intro p i hp
    rw [List.flatten_cons] at hp
    obtain ⟨hp₁, hp₂⟩ := holds_append.mp hp
    simp only [List.length_cons, replicateOnto, hs p i hp₁]
    rw [ih (a :: done) p _ hp₂]
    simp [Nat.add_assoc]

/-- A sequence is read element by element. -/
lemma reads_replicate {d : Decoder α} {ss : List Octets} {as : List α}
    (h : List.Forall₂ d.Reads ss as) : (replicate as.length d).Reads ss.flatten as :=
  replicateOnto_of_reads h []

end Decoder

end StubResolver
