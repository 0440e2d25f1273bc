import Mathlib.Algebra.Ring.Nat
import Mathlib.Data.List.Forall2
import Mathlib.Tactic.Common

/-!
# Results in sequence

A sequence of computations succeeds if each of them does, and otherwise fails as the first one does
that fails.
-/

namespace StubResolver

variable {α β ε : Type} {a : α} {b : β} {e : ε}

@[simp] lemma ok_bind (a : α) (f : α → Except ε β) : (Except.ok a >>= f) = f a := rfl

@[simp] lemma error_bind (e : ε) (f : α → Except ε β) :
    (Except.error e >>= f) = .error e := rfl

@[simp] lemma except_pure (a : α) : (pure a : Except ε α) = .ok a := rfl

/-- Whatever is computed in two steps is computed in the first and then in the second. -/
lemma except_bind_eq_ok_iff {x : Except ε α} {f : α → Except ε β} :
    (x >>= f) = .ok b ↔ ∃ a, x = .ok a ∧ f a = .ok b := by
  cases x <;> simp

lemma except_bind_eq_error_iff {x : Except ε α} {f : α → Except ε β} :
    (x >>= f) = .error e ↔ x = .error e ∨ ∃ a, x = .ok a ∧ f a = .error e := by
  cases x <;> simp

lemma mapError_eq_ok_iff {ε' : Type} {x : Except ε α} {f : ε → ε'} :
    x.mapError f = .ok a ↔ x = .ok a := by
  cases x <;> simp [Except.mapError]

lemma mapError_eq_error_iff {ε' : Type} {x : Except ε α} {f : ε → ε'} {e' : ε'} :
    x.mapError f = .error e' ↔ ∃ e, x = .error e ∧ f e = e' := by
  cases x <;> simp [Except.mapError]

lemma toOption_eq_some_iff {x : Except ε α} : x.toOption = some a ↔ x = .ok a := by
  cases x <;> simp [Except.toOption]

variable {f : α → Except ε β} {l : List α}

lemma mapM_eq_ok_iff {bs : List β} :
    l.mapM f = .ok bs ↔ List.Forall₂ (fun a b => f a = .ok b) l bs := by
  induction l generalizing bs with
  | nil => simp [eq_comm]
  | cons a l ih =>
    rw [List.mapM_cons, List.forall₂_cons_left_iff, except_bind_eq_ok_iff]
    simp only [except_bind_eq_ok_iff, except_pure, Except.ok.injEq, ih]
    constructor
    · rintro ⟨b, hb, bs, hbs, rfl⟩
      exact ⟨b, bs, hb, hbs, rfl⟩
    · rintro ⟨b, bs, hb, hbs, rfl⟩
      exact ⟨b, hb, bs, hbs, rfl⟩

/-- A sequence fails as its first element does that fails. -/
lemma mapM_eq_error_iff :
    l.mapM f = .error e ↔
      ∃ before a after, l = before ++ a :: after ∧ (∀ x ∈ before, ∃ b, f x = .ok b)
        ∧ f a = .error e := by
  induction l with
  | nil => simp
  | cons a l ih =>
    rw [List.mapM_cons, except_bind_eq_error_iff]
    simp only [except_bind_eq_error_iff, except_pure, reduceCtorEq, and_false, exists_false,
      or_false, ih]
    constructor
    · rintro (ha | ⟨b, hb, before, c, after, rfl, hbefore, hc⟩)
      · exact ⟨[], a, l, rfl, by simp, ha⟩
      · exact ⟨a :: before, c, after, rfl, List.forall_mem_cons.mpr ⟨⟨b, hb⟩, hbefore⟩, hc⟩
    · rintro ⟨before, c, after, hl, hbefore, hc⟩
      cases before with
      | nil =>
        obtain ⟨rfl, rfl⟩ := List.cons.inj hl
        exact Or.inl hc
      | cons x before =>
        obtain ⟨rfl, rfl⟩ := List.cons.inj hl
        obtain ⟨⟨b, hb⟩, hbefore⟩ := List.forall_mem_cons.mp hbefore
        exact Or.inr ⟨b, hb, before, c, after, rfl, hbefore, hc⟩

/-! ### Lists side by side -/

section Forall₂

variable {R : α → β → Prop} {as : List α} {bs : List β}

lemma exists_forall₂ (h : ∀ a ∈ as, ∃ b, R a b) : ∃ bs, List.Forall₂ R as bs := by
  induction as with
  | nil => exact ⟨[], .nil⟩
  | cons a as ih =>
    obtain ⟨⟨b, hb⟩, hrest⟩ := List.forall_mem_cons.mp h
    obtain ⟨bs, hbs⟩ := ih hrest
    exact ⟨b :: bs, .cons hb hbs⟩

lemma exists_of_mem_left (h : List.Forall₂ R as bs) (ha : a ∈ as) : ∃ b ∈ bs, R a b := by
  induction h with
  | nil => cases ha
  | cons hR _ ih =>
    rcases List.mem_cons.mp ha with rfl | ha
    · exact ⟨_, List.mem_cons_self, hR⟩
    · obtain ⟨b, hb, hR⟩ := ih ha
      exact ⟨b, List.mem_cons_of_mem _ hb, hR⟩

lemma exists_of_mem_right (h : List.Forall₂ R as bs) (hb : b ∈ bs) : ∃ a ∈ as, R a b :=
  exists_of_mem_left h.flip hb

lemma exists_mapM_eq_ok_iff : (∃ bs, l.mapM f = .ok bs) ↔ ∀ a ∈ l, ∃ b, f a = .ok b := by
  simp only [mapM_eq_ok_iff]
  refine ⟨?_, exists_forall₂⟩
  rintro ⟨bs, hbs⟩ a ha
  obtain ⟨b, -, hb⟩ := exists_of_mem_left hbs ha
  exact ⟨b, hb⟩

/-- Where the length of each piece is known beforehand, so is that of all pieces together. -/
lemma length_flatten_of_mapM {f : α → Except ε (List β)} {length : α → Nat} {pieces : List (List β)}
    (hf : ∀ a piece, f a = .ok piece → piece.length = length a) (h : l.mapM f = .ok pieces) :
    pieces.flatten.length = (l.map length).sum := by
  rw [mapM_eq_ok_iff] at h
  induction h with
  | nil => rfl
  | cons hpiece _ ih =>
    rw [List.flatten_cons, List.length_append, ih, hf _ _ hpiece, List.map_cons, List.sum_cons]

end Forall₂

/-- Of two elements of a sequence that are not the same, one stands in front of the other. -/
lemma eq_or_mem_of_append_eq {c : α} {before before' after after' : List α}
    (h : before ++ a :: after = before' ++ c :: after') :
    a = c ∨ a ∈ before' ∨ c ∈ before := by
  rcases List.append_eq_append_iff.mp h with ⟨l, rfl, hl⟩ | ⟨l, rfl, hl⟩
  · cases l with
    | nil => exact Or.inl (List.cons.inj hl).1
    | cons x l => exact Or.inr (Or.inl (by simp [(List.cons.inj hl).1]))
  · cases l with
    | nil => exact Or.inl (List.cons.inj hl).1.symm
    | cons x l => exact Or.inr (Or.inr (by simp [(List.cons.inj hl).1]))

end StubResolver
