import StubResolver.Proofs.Wire.Framing
import StubResolver.Proofs.Wire.Outcome

/-!
# Reading the beginning of a packet

A decoder looks at no other octets than those that it takes. What it does on a packet it also does
on every packet that goes on behind it, unless it lacked octets.
-/

namespace StubResolver

/-- An error for which octets end too early. -/
def Error.IsShort : Error → Prop
  | .format .shortInput => True
  | .truncatedRecord .. => True
  | _ => False

/-- A second result is the first one, unless the first one is that octets end too early. -/
def AgreesUnlessShort {α : Type} (x y : Except Error α) : Prop :=
  (∃ e, x = .error e ∧ e.IsShort) ∨ y = x

namespace AgreesUnlessShort

variable {α β : Type} {x y : Except Error α} {f g : α → Except Error β}

lemma refl (x : Except Error α) : AgreesUnlessShort x x := .inr rfl

lemma of_short {e : Error} (h : e.IsShort) : AgreesUnlessShort (.error e) y := .inl ⟨e, rfl, h⟩

lemma bind (h : AgreesUnlessShort x y) (hf : ∀ a, AgreesUnlessShort (f a) (g a)) :
    AgreesUnlessShort (x >>= f) (y >>= g) := by
  rcases h with ⟨e, rfl, hshort⟩ | rfl
  · exact of_short hshort
  · cases y with
    | error e => exact refl (.error e)
    | ok a => exact hf a

/-- What succeeds at first succeeds in the same way then. -/
lemma eq_ok {a : α} (h : AgreesUnlessShort x y) (hx : x = .ok a) : y = .ok a := by
  rcases h with ⟨e, he, -⟩ | rfl
  · rw [hx] at he
    cases he
  · exact hx

end AgreesUnlessShort

namespace Packet

variable {p : Packet} {i : Nat} {b : UInt8}

lemma getElem?_append_of_eq_some (h : p[i]? = some b) (q : Packet) : (p ++ q)[i]? = some b := by
  obtain ⟨hi, -⟩ := Array.getElem?_eq_some_iff.mp h
  rw [Array.getElem?_append_left hi, h]

/-- Octets that are all there are the same in a packet that goes on. -/
lemma extract_append_of_size_eq {n : Nat} (h : (p.extract i (i + n)).size = n) (q : Packet) :
    (p ++ q).extract i (i + n) = p.extract i (i + n) := by
  rw [Array.size_extract] at h
  have hempty : q.extract (i - p.size) (i + n - p.size) = #[] :=
    Array.extract_empty_of_stop_le_start (by omega)
  rw [Array.extract_append, hempty, Array.append_empty]

end Packet

namespace Decoder

variable {α β : Type} {d : Decoder α} {f : α → Decoder β}

instance : LawfulMonad Decoder := by
  refine LawfulMonad.mk' Decoder ?_ ?_ ?_
  · intro α d
    funext p i
    simp only [Functor.map]
    cases d p i <;> rfl
  · intro α β a f
    rfl
  · intro α β γ d f g
    funext p i
    simp only [bind]
    cases d p i <;> rfl

lemma bind_apply (d : Decoder α) (f : α → Decoder β) (p : Packet) (i : Nat) :
    (d >>= f) p i = d p i >>= fun r => f r.1 p r.2 := by
  simp only [Bind.bind, Except.bind]
  cases d p i <;> rfl

/-! ### Locality -/

/-- A decoder stays inside of the packet, and does the same where the packet goes on, unless it
lacked octets. -/
structure IsLocal (d : Decoder α) : Prop where
  inside : ∀ p i a j, i ≤ p.size → d p i = .ok (a, j) → j ≤ p.size
  stable : ∀ p q i, AgreesUnlessShort (d p i) (d (p ++ q) i)

/-- A decoder that takes nothing and does not look at the packet is local. -/
lemma isLocal_of_forall {g : Nat → Except Error α}
    (h : ∀ p i, d p i = (g i).map fun a => (a, i)) : d.IsLocal where
  inside p i a j hi hd := by
    rw [h] at hd
    cases hg : g i with
    | error e => rw [hg] at hd; cases hd
    | ok a' => rw [hg] at hd; cases hd; exact hi
  stable p q i := .inr (by rw [h, h])

lemma isLocal_pure (a : α) : (pure a : Decoder α).IsLocal :=
  isLocal_of_forall (g := fun _ => .ok a) fun _ _ => rfl

lemma isLocal_fail (e : Error) : (fail e : Decoder α).IsLocal :=
  isLocal_of_forall (g := fun _ => .error e) fun _ _ => rfl

lemma isLocal_position : position.IsLocal :=
  isLocal_of_forall (g := .ok) fun _ _ => rfl

lemma IsLocal.bind (hd : d.IsLocal) (hf : ∀ a, (f a).IsLocal) : (d >>= f).IsLocal where
  inside p i b k hi h := by
    obtain ⟨a, j, ha, hb⟩ := bind_eq_ok h
    exact (hf a).inside p j b k (hd.inside p i a j hi ha) hb
  stable p q i := by
    rw [bind_apply, bind_apply]
    exact (hd.stable p q i).bind fun r => (hf r.1).stable p q r.2

lemma IsLocal.bind_pure (hd : d.IsLocal) (g : α → β) : (d >>= fun a => pure (g a)).IsLocal :=
  hd.bind fun a => isLocal_pure (g a)

/-! ### Numbers and octets -/

lemma isLocal_octet : octet.IsLocal where
  inside p i b j _ h := by
    obtain ⟨hb, rfl⟩ := octet_eq_ok h
    exact (Array.getElem?_eq_some_iff.mp hb).1
  stable p q i := by
    cases h : p[i]? with
    | none =>
      simp only [octet, h]
      exact .of_short trivial
    | some b =>
      rw [octet_of_getElem? h, octet_of_getElem? (Packet.getElem?_append_of_eq_some h q)]
      exact .refl _

lemma isLocal_octets (n : Nat) : (octets n).IsLocal where
  inside p i s j hi h := by
    simp only [octets] at h
    split_ifs at h with hsize
    cases h
    rw [Array.size_extract] at hsize
    omega
  stable p q i := by
    by_cases hsize : (p.extract i (i + n)).size = n
    · simp only [octets, Packet.extract_append_of_size_eq hsize]
      exact .refl _
    · simp only [octets, hsize, if_false]
      exact .of_short trivial

lemma isLocal_vector (n : Nat) : (vector n).IsLocal where
  inside p i v j hi h := by
    simp only [vector] at h
    split_ifs at h with hsize
    cases h
    rw [Array.size_extract] at hsize
    omega
  stable p q i := by
    by_cases hsize : (p.extract i (i + n)).size = n
    · simp only [vector, Packet.extract_append_of_size_eq hsize]
      exact .refl _
    · simp only [vector, hsize, dite_false]
      exact .of_short trivial

lemma isLocal_uint16 : uint16.IsLocal :=
  isLocal_octet.bind fun _ => isLocal_octet.bind_pure _

lemma isLocal_uint32 : uint32.IsLocal :=
  isLocal_octet.bind fun _ => isLocal_octet.bind fun _ => isLocal_octet.bind fun _ =>
    isLocal_octet.bind_pure _

/-! ### Sequences -/

lemma isLocal_replicateOnto (hd : d.IsLocal) (n : Nat) (done : List α) :
    (d.replicateOnto n done).IsLocal := by
  induction n generalizing done with
  | zero => exact isLocal_pure done.reverse
  | succ n ih => exact hd.bind fun a => ih (a :: done)

lemma isLocal_replicate (hd : d.IsLocal) (n : Nat) : (replicate n d).IsLocal :=
  isLocal_replicateOnto hd n []

end Decoder

end StubResolver
