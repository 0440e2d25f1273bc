import StubResolver.Proofs.Wire.Result
import StubResolver.Wire.Decoder

/-!
# What decoders give

A decoder yields a property if every value that it reads, from whatever packet, has the property.
It throws a property if every error that it fails with has the property.
-/

namespace StubResolver

/-- An error in the form of a name or of data, and not in their type or length. -/
def Error.IsMalformed : Error → Prop
  | .format _ => True
  | .unsupportedLabelType _ => True
  | _ => False

/-- An error for which octets stand for no message. -/
def Error.IsUnreadable : Error → Prop
  | .truncatedRecord .. => True
  | e => e.IsMalformed

lemma Error.IsMalformed.isUnreadable {e : Error} (h : e.IsMalformed) : e.IsUnreadable := by
  cases e <;> first | exact h | trivial

lemma Error.IsUnreadable.isAggregate_eq {e : Error} (h : e.IsUnreadable) :
    e.isAggregate = false := by
  cases e <;> first | rfl | exact h.elim

namespace Decoder

variable {α β : Type} {P : α → Prop} {Q : β → Prop} {d : Decoder α} {f : α → Decoder β}

/-! ### Values -/

/-- Every value that a decoder reads has a property. -/
def Yields (d : Decoder α) (P : α → Prop) : Prop := ∀ p i a j, d p i = .ok (a, j) → P a

lemma yields_pure {a : α} (h : P a) : (pure a : Decoder α).Yields P := by
  rintro p i b j ⟨⟩
  exact h

lemma yields_fail (e : Error) : (fail e : Decoder α).Yields P := by
  rintro p i a j ⟨⟩

lemma yields_true : d.Yields fun _ => True := fun _ _ _ _ _ => trivial

/-- What was read first and from where the rest was read. -/
lemma bind_eq_ok {p : Packet} {i k : Nat} {b : β} (h : (d >>= f) p i = .ok (b, k)) :
    ∃ a j, d p i = .ok (a, j) ∧ f a p j = .ok (b, k) := by
  simp only [bind] at h
  split at h
  · exact ⟨_, _, ‹_›, h⟩
  · cases h

/-- The octet that was read stands where it was read. -/
lemma octet_eq_ok {p : Packet} {i j : Nat} {b : UInt8} (h : octet p i = .ok (b, j)) :
    p[i]? = some b ∧ j = i + 1 := by
  unfold octet at h
  split at h
  next b' hb =>
    cases h
    exact ⟨hb, rfl⟩
  next => cases h

/-- The two octets of a number stand where it was read. -/
lemma uint16_eq_ok {p : Packet} {i j : Nat} {n : UInt16} (h : uint16 p i = .ok (n, j)) :
    j = i + 2 ∧ ∃ high low, p[i]? = some high ∧ p[i + 1]? = some low
      ∧ n = Octets.toUInt16 high low := by
  obtain ⟨high, k, hhigh, h⟩ := bind_eq_ok h
  obtain ⟨low, l, hlow, h⟩ := bind_eq_ok h
  obtain ⟨hi, rfl⟩ := octet_eq_ok hhigh
  obtain ⟨hi', rfl⟩ := octet_eq_ok hlow
  cases h
  exact ⟨rfl, high, low, hi, hi', rfl⟩

lemma Yields.bind (hd : d.Yields P) (hf : ∀ a, P a → (f a).Yields Q) : (d >>= f).Yields Q := by
  intro p i b k h
  obtain ⟨a, j, ha, hb⟩ := bind_eq_ok h
  exact hf a (hd p i a j ha) p j b k hb

/-- A value of which nothing is known was read before. -/
lemma yields_bind (hf : ∀ a, (f a).Yields Q) : (d >>= f).Yields Q :=
  yields_true.bind fun a _ => hf a

lemma Yields.bind_pure (hd : d.Yields P) {g : α → β} (hg : ∀ a, P a → Q (g a)) :
    (d >>= fun a => pure (g a)).Yields Q :=
  hd.bind fun a ha => yields_pure (hg a ha)

lemma yields_octets (n : Nat) : (octets n).Yields fun s => s.length = n := by
  intro p i s j h
  simp only [octets] at h
  split at h
  next hsize =>
    obtain ⟨rfl, -⟩ := Prod.mk.inj (Except.ok.inj h)
    rw [Array.length_toList]
    exact hsize
  next => cases h

lemma replicateOnto_yields (hd : d.Yields P) (n : Nat) (done : List α) (hdone : ∀ a ∈ done, P a) :
    (d.replicateOnto n done).Yields fun as => as.length = done.length + n ∧ ∀ a ∈ as, P a := by
  induction n generalizing done with
  | zero =>
    rintro p i as j ⟨⟩
    simpa using hdone
  | succ n ih =>
    intro p i as j h
    simp only [replicateOnto] at h
    split at h
    next a k ha =>
      have := ih (a :: done) (List.forall_mem_cons.mpr ⟨hd p i a k ha, hdone⟩) p k as j h
      simpa [Nat.add_right_comm, Nat.add_assoc] using this
    next => cases h

/-- A sequence has as many elements as were asked for. -/
lemma yields_replicate (hd : d.Yields P) (n : Nat) :
    (replicate n d).Yields fun as => as.length = n ∧ ∀ a ∈ as, P a := by
  simpa [replicate] using replicateOnto_yields hd n [] (by simp)

/-! ### Errors -/

variable {R : Error → Prop}

/-- Every error that a decoder fails with has a property. -/
def Throws (d : Decoder α) (R : Error → Prop) : Prop := ∀ p i e, d p i = .error e → R e

lemma throws_pure (a : α) : (pure a : Decoder α).Throws R := by
  rintro p i e ⟨⟩

lemma throws_fail {e : Error} (h : R e) : (fail e : Decoder α).Throws R := by
  rintro p i e' ⟨⟩
  exact h

lemma Throws.bind (hd : d.Throws R) (hf : ∀ a, (f a).Throws R) : (d >>= f).Throws R := by
  intro p i e h
  simp only [Bind.bind] at h
  split at h
  · exact hf _ p _ e h
  · cases h
    exact hd p i e ‹_›

lemma Throws.bind_pure (hd : d.Throws R) (g : α → β) :
    (d >>= fun a => pure (g a)).Throws R :=
  hd.bind fun a => throws_pure (g a)

lemma Throws.imp {S : Error → Prop} (hd : d.Throws R) (h : ∀ e, R e → S e) : d.Throws S :=
  fun p i e he => h e (hd p i e he)

lemma replicateOnto_throws (hd : d.Throws R) (n : Nat) (done : List α) :
    (d.replicateOnto n done).Throws R := by
  induction n generalizing done with
  | zero => rintro p i e ⟨⟩
  | succ n ih =>
    intro p i e h
    simp only [replicateOnto] at h
    split at h
    next a j ha => exact ih (a :: done) p j e h
    next e' he' =>
      cases h
      exact hd p i _ he'

/-- A sequence fails as one of its elements does. -/
lemma throws_replicate (hd : d.Throws R) (n : Nat) : (replicate n d).Throws R :=
  replicateOnto_throws hd n []

lemma throws_octet (h : R (.format .shortInput)) : octet.Throws R := by
  intro p i e he
  unfold octet at he
  split at he <;> cases he
  exact h

lemma throws_octets (h : R (.format .shortInput)) (n : Nat) : (octets n).Throws R := by
  intro p i e he
  simp only [octets] at he
  split at he <;> cases he
  exact h

lemma throws_vector (h : R (.format .shortInput)) (n : Nat) : (vector n).Throws R := by
  intro p i e he
  simp only [vector] at he
  split at he <;> cases he
  exact h

lemma throws_uint16 (h : R (.format .shortInput)) : uint16.Throws R :=
  (throws_octet h).bind fun _ => (throws_octet h).bind_pure _

lemma throws_uint32 (h : R (.format .shortInput)) : uint32.Throws R :=
  (throws_octet h).bind fun _ => (throws_octet h).bind fun _ => (throws_octet h).bind fun _ =>
    (throws_octet h).bind_pure _

end Decoder

end StubResolver
