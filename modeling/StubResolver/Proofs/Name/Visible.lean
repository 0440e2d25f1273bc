import StubResolver.Name.Basic
import StubResolver.Proofs.Text.Utf8
import StubResolver.Unicode.WhiteSpace

/-!
# Visible characters

The text forms of numbers, octets and names consist of visible characters of ASCII alone, whatever
octets the labels hold. So there is no white space in them, and nothing that ends a line.
-/

namespace StubResolver

/-! ### Characters -/

namespace Text

variable {b n : Nat} {c : Char}

/-- The visible characters of ASCII. The space is not one of them. -/
def IsVisible (c : Char) : Prop := 0x21 ≤ c.toNat ∧ c.toNat ≤ 0x7E

instance : DecidablePred IsVisible := fun c => by unfold IsVisible; infer_instance

lemma IsVisible.isWhiteSpace_eq_false (h : IsVisible c) : Unicode.isWhiteSpace c = false := by
  obtain ⟨hlow, hhigh⟩ := h
  simp only [Unicode.isWhiteSpace, Bool.or_eq_false_iff, Bool.and_eq_false_iff,
    decide_eq_false_iff_not, beq_eq_false_iff_ne]
  omega

lemma IsVisible.of_range {first last : Char} (hfirst : IsVisible first) (hlast : IsVisible last)
    (h : first.val ≤ c.val ∧ c.val ≤ last.val) : IsVisible c := by
  simp only [UInt32.le_iff_toNat_le] at h
  exact ⟨Nat.le_trans hfirst.1 h.1, Nat.le_trans h.2 hlast.2⟩

lemma isVisible_of_isAlphanum (h : c.isAlphanum = true) : IsVisible c := by
  have hranges : (decide ('A'.val ≤ c.val ∧ c.val ≤ 'Z'.val)
      || decide ('a'.val ≤ c.val) && decide (c.val ≤ 'z'.val)
      || decide ('0'.val ≤ c.val) && decide (c.val ≤ '9'.val)) = true := h
  simp only [Bool.or_eq_true, Bool.and_eq_true, decide_eq_true_eq] at hranges
  rcases hranges with (hupper | hlower) | hdigit
  · exact (by decide : IsVisible 'A').of_range (by decide : IsVisible 'Z') hupper
  · exact (by decide : IsVisible 'a').of_range (by decide : IsVisible 'z') hlower
  · exact (by decide : IsVisible '0').of_range (by decide : IsVisible '9') hdigit

lemma isVisible_digitChar (h : n < 16) : IsVisible (Nat.digitChar n) := by
  have hall : ∀ n < 16, IsVisible (Nat.digitChar n) := by decide
  exact hall n h

lemma isVisible_of_mem_toDigits (hb : 1 < b) (hmax : b ≤ 16) (h : c ∈ Nat.toDigits b n) :
    IsVisible c := by
  -- The digits are those of `n / b` and the last one.
  induction n using Nat.strongRecOn with
  | ind n ih =>
    rw [Nat.toDigits_eq_if hb] at h
    split_ifs at h with hn
    · obtain rfl := List.mem_singleton.mp h
      exact isVisible_digitChar (by omega)
    · rcases List.mem_append.mp h with h | h
      · exact ih (n / b) (Nat.div_lt_self (by omega) hb) h
      · obtain rfl := List.mem_singleton.mp h
        have := Nat.mod_lt n (by omega : 0 < b)
        exact isVisible_digitChar (by omega)

lemma isVisible_of_mem_toString (h : c ∈ (toString n).toList) : IsVisible c := by
  rw [Nat.toString_eq_repr, Nat.toList_repr] at h
  exact isVisible_of_mem_toDigits (by decide) (by decide) h

lemma isVisible_of_mem_lowerOctet {b : UInt8} (h : c ∈ Hex.lowerOctet b) : IsVisible c := by
  have hdigit : ∀ n < 16, IsVisible (Hex.lowerDigit n) := by decide
  have hb := b.toNat_lt
  simp only [Hex.lowerOctet, List.mem_cons, List.not_mem_nil, or_false] at h
  rcases h with rfl | rfl <;> exact hdigit _ (by omega)

lemma isVisible_of_mem_upperOctet {b : UInt8} (h : c ∈ Hex.upperOctet b) : IsVisible c := by
  have hdigit : ∀ n < 16, IsVisible (Hex.upperDigit n) := by decide
  have hb := b.toNat_lt
  simp only [Hex.upperOctet, List.mem_cons, List.not_mem_nil, or_false] at h
  rcases h with rfl | rfl <;> exact hdigit _ (by omega)

end Text

/-! ### Names -/

variable {c : Char}

lemma Label.isVisible_of_isPlain (h : isPlain c = true) : Text.IsVisible c := by
  simp only [isPlain, Bool.or_eq_true, beq_iff_eq] at h
  rcases h with (h | rfl) | rfl
  · exact Text.isVisible_of_isAlphanum h
  · decide
  · decide

/-- An octet is written as it is or behind a backslash if it is visible, and else in digits. -/
lemma Label.isVisible_of_mem_octetText {b : UInt8} (h : c ∈ octetText b) : Text.IsVisible c := by
  unfold octetText at h
  dsimp only at h
  split_ifs at h with hplain hvisible
  · obtain rfl := List.mem_singleton.mp h
    exact isVisible_of_isPlain hplain
  · obtain ⟨hlow, hhigh⟩ := hvisible
    rw [UInt8.le_iff_toNat_le] at hlow hhigh
    simp only [List.mem_cons, List.not_mem_nil, or_false] at h
    rcases h with rfl | rfl
    · decide
    · rw [Text.IsVisible, Utf8.toNat_ofNat_of_lt (Nat.lt_of_le_of_lt hhigh (by decide))]
      exact ⟨hlow, hhigh⟩
  · simp only [Numeral.threeDigits, List.mem_cons, List.not_mem_nil, or_false] at h
    rcases h with rfl | rfl | rfl | rfl
    · decide
    all_goals exact Text.isVisible_digitChar (by omega)

lemma Label.isVisible_of_mem_chars {l : Label} (h : c ∈ l.chars) : Text.IsVisible c := by
  cases l with
  | text octets =>
    obtain ⟨b, -, hc⟩ := List.mem_flatMap.mp h
    exact isVisible_of_mem_octetText hc
  | bits octets count =>
    simp only [chars, List.mem_append, List.mem_cons, List.not_mem_nil, or_false, List.cons_append,
      List.nil_append, List.append_assoc] at h
    rcases h with rfl | rfl | rfl | hdigits | rfl | hcount | rfl
    · decide
    · decide
    · decide
    · obtain ⟨b, -, hc⟩ := List.mem_flatMap.mp hdigits
      exact Text.isVisible_of_mem_upperOctet hc
    · decide
    · exact Text.isVisible_of_mem_toDigits (by decide) (by decide) hcount
    · decide

lemma Name.isVisible_of_mem_chars {n : Name} (h : c ∈ n.chars) : Text.IsVisible c := by
  unfold chars at h
  split at h
  · obtain rfl := List.mem_singleton.mp h
    decide
  · obtain ⟨l, -, hc⟩ := List.mem_flatMap.mp h
    rcases List.mem_append.mp hc with hc | hc
    · exact Label.isVisible_of_mem_chars hc
    · obtain rfl := List.mem_singleton.mp hc
      decide

end StubResolver
