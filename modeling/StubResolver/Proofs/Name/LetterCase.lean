import Mathlib.Data.List.Forall2
import Mathlib.Logic.Function.Basic
import Mathlib.Tactic.Common
import StubResolver.Name.Basic

/-!
# Letters in another case

The case of letters in a name can be changed at random. On the wire this changes one bit of some
letters in labels of text, and nothing else, not even where lengths or bits look like letters. What
comes of it are exactly the names that are equal to the first, and a hash function is fed the same
for all of them.
-/

namespace StubResolver

/-! ### Octets -/

/-- A property of all octets, checked for each of them. -/
lemma forall_octet {P : UInt8 → Prop} (h : ∀ n < 256, P (.ofNat n)) (b : UInt8) : P b := by
  have hb := h b.toNat b.toNat_lt
  rwa [UInt8.ofNat_toNat] at hb

lemma lowerOctet_xor {b : UInt8} (h : isLetter b = true) :
    lowerOctet (b ^^^ 0x20) = lowerOctet b :=
  forall_octet (P := fun b => isLetter b = true → lowerOctet (b ^^^ 0x20) = lowerOctet b)
    (by decide +kernel) b h

@[simp] lemma lowerOctet_lowerOctet (b : UInt8) : lowerOctet (lowerOctet b) = lowerOctet b :=
  forall_octet (P := fun b => lowerOctet (lowerOctet b) = lowerOctet b) (by decide +kernel) b

/-- Octets with the same small letter are equal, or they are the two cases of a letter. -/
lemma eq_or_eq_xor_of_lowerOctet {b b' : UInt8} (h : lowerOctet b = lowerOctet b') :
    b' = b ∨ isLetter b = true ∧ b' = b ^^^ 0x20 := by
  have hself : ∀ b, lowerOctet b = b ∨ isLetter b = true ∧ lowerOctet b = b ^^^ 0x20 :=
    forall_octet (by decide +kernel)
  have hxor : ∀ b, isLetter b = true → isLetter (b ^^^ 0x20) = true ∧ b ^^^ 0x20 ^^^ 0x20 = b :=
    forall_octet (by decide +kernel)
  rcases hself b with hb | ⟨hletter, hb⟩ <;> rcases hself b' with hb' | ⟨hletter', hb'⟩
  · rw [hb, hb'] at h
    exact Or.inl h.symm
  · rw [hb, hb'] at h
    rw [h, (hxor b' hletter').2]
    exact Or.inr ⟨(hxor b' hletter').1, rfl⟩
  · rw [hb, hb'] at h
    exact Or.inr ⟨hletter, h.symm⟩
  · rw [hb, hb'] at h
    rw [← (hxor b hletter).2, h, (hxor b' hletter').2]
    exact Or.inl rfl

/-- The octets with the case changed of every marked one for which the bit of a stream is set. The
stream has one bit for each of them, beginning with bit `i`. -/
def flipCase (bits : Nat → Bool) : (i : Nat) → List Bool → Octets → Octets
  | i, mark :: marks, b :: octets =>
    (if mark && bits i then b ^^^ 0x20 else b) :: flipCase bits (i + mark.toNat) marks octets
  | _, _, octets => octets

section FlipCase

variable {bits : Nat → Bool} {marks marks' : List Bool} {octets octets' : Octets} {i : Nat}

lemma flipCase_append (h : marks.length = octets.length) :
    flipCase bits i (marks ++ marks') (octets ++ octets')
      = flipCase bits i marks octets ++ flipCase bits (i + marks.count true) marks' octets' := by
  induction octets generalizing marks i with
  | nil =>
    obtain rfl := List.length_eq_zero_iff.mp h
    cases marks' <;> rfl
  | cons b octets ih =>
    obtain ⟨mark, marks, rfl⟩ := List.exists_cons_of_length_eq_add_one h
    rw [List.cons_append, List.cons_append, flipCase, ih (Nat.succ.inj h), flipCase]
    cases mark <;> simp [Nat.add_assoc, Nat.add_comm 1]

lemma flipCase_of_unmarked (h : ∀ mark ∈ marks, mark = false) :
    flipCase bits i marks octets = octets := by
  induction marks generalizing octets i with
  | nil => cases octets <;> rfl
  | cons mark marks ih =>
    obtain ⟨rfl, hmarks⟩ := List.forall_mem_cons.mp h
    cases octets with
    | nil => rfl
    | cons b octets => simp [flipCase, ih hmarks]

/-- An octet changes only if it is marked and its own bit of the stream is set. -/
lemma getElem?_flipCase (k : Nat) :
    (flipCase bits i marks octets)[k]? = octets[k]?.map fun b =>
      if marks[k]? = some true ∧ bits (i + (marks.take k).count true) = true then b ^^^ 0x20
      else b := by
  induction octets generalizing marks i k with
  | nil => cases marks <;> simp [flipCase]
  | cons b octets ih =>
    cases marks with
    | nil => simp [flipCase]
    | cons mark marks =>
      cases k with
      | zero => simp [flipCase]
      | succ k =>
        rw [flipCase, List.getElem?_cons_succ, ih]
        cases mark <;> simp [Nat.add_assoc, Nat.add_comm 1]

end FlipCase

/-! ### Labels -/

namespace Label

/-- Which octets of a label on the wire are letters of text. -/
def letters : Label → List Bool
  | text octets => false :: octets.map isLetter
  | bits octets _ => false :: false :: octets.map fun _ => false

@[simp] lemma length_letters (l : Label) : l.letters.length = l.wireLength := by
  cases l <;> simp [letters, wireLength] <;> omega

/-- Only letters are marked. -/
lemma forall₂_letters (l : Label) :
    List.Forall₂ (fun mark b => mark = true → isLetter b = true) l.letters l.encode := by
  cases l <;>
    simp only [letters, encode, List.forall₂_cons, List.forall₂_map_left_iff, List.forall₂_same] <;>
    simp

@[simp] lemma wireLength_fold (l : Label) : l.fold.wireLength = l.wireLength := by
  cases l <;> simp [fold, wireLength]

@[simp] lemma hashFeed_fold (l : Label) : l.fold.hashFeed = l.hashFeed := by
  cases l <;> simp [fold, hashFeed]

end Label

/-! ### Names -/

namespace Name

variable {bits bits' : Nat → Bool} {i : Nat} {octets octets' : Octets}

/-- Which octets of a name on the wire are letters of text. -/
def letters (n : Name) : List Bool := n.labels.flatMap Label.letters ++ [false]

lemma letters_cons (l : Label) (labels : List Label) :
    letters ⟨l :: labels⟩ = l.letters ++ letters ⟨labels⟩ := by
  simp only [letters, List.flatMap_cons, List.append_assoc]

lemma wireLength_cons (l : Label) (labels : List Label) :
    wireLength ⟨l :: labels⟩ = l.wireLength + wireLength ⟨labels⟩ := rfl

@[simp] lemma length_letters (n : Name) : n.letters.length = n.wireLength := by
  obtain ⟨labels⟩ := n
  induction labels with
  | nil => rfl
  | cons l labels ih =>
    rw [letters_cons, List.length_append, Label.length_letters, ih, wireLength_cons]

lemma forall₂_letters (n : Name) :
    List.Forall₂ (fun mark b => mark = true → isLetter b = true) n.letters n.encode := by
  obtain ⟨labels⟩ := n
  induction labels with
  | nil => simp [letters, encode]
  | cons l labels ih =>
    rw [letters_cons, encode_cons]
    exact List.rel_append l.forall₂_letters ih

/-! ### What changes -/

lemma recaseOctets_eq (bits : Nat → Bool) (i : Nat) (octets : Octets) :
    recaseOctets bits i octets
      = (flipCase bits i (octets.map isLetter) octets, i + (octets.map isLetter).count true) := by
  fun_induction recaseOctets bits i octets with
  | case1 => rfl
  | case2 i b octets hletter r ih =>
    simp [r, ih, flipCase, hletter, Nat.add_assoc, Nat.add_comm 1]
  | case3 i b octets hletter r ih => simp [r, ih, flipCase, hletter]

lemma length_recaseOctets : (recaseOctets bits i octets).1.length = octets.length := by
  fun_induction recaseOctets bits i octets with
  | case1 => rfl
  | case2 i b octets hletter r ih => rw [List.length_cons, List.length_cons, ih]
  | case3 i b octets hletter r ih => rw [List.length_cons, List.length_cons, ih]

/-- On the wire, the letters of text change their case as the bits for them say, and nothing else
changes. -/
lemma encode_recaseLabels (bits : Nat → Bool) (i : Nat) (labels : List Label) :
    encode ⟨recaseLabels bits i labels⟩ = flipCase bits i (letters ⟨labels⟩) (encode ⟨labels⟩) := by
  fun_induction recaseLabels bits i labels with
  | case1 => rfl
  | case2 i octets labels r ih =>
    rw [encode_cons, ih, letters_cons, encode_cons, flipCase_append (by simp)]
    have hnext : r.2 = i + (Label.letters (.text octets)).count true := by
      simp [r, recaseOctets_eq, Label.letters]
    have hlabel : (Label.text r.1).encode
        = flipCase bits i (Label.letters (.text octets)) (Label.text octets).encode := by
      rw [Label.encode, length_recaseOctets]
      simp [r, recaseOctets_eq, Label.letters, Label.encode, flipCase]
    rw [hnext, hlabel]
  | case3 i l labels hl ih =>
    have hnone : ∀ mark ∈ l.letters, mark = false := by
      cases l with
      | text octets => exact (hl octets rfl).elim
      | bits octets count => simp [Label.letters]
    have hcount : l.letters.count true = 0 :=
      List.count_eq_zero.mpr fun hmark => Bool.noConfusion (hnone true hmark)
    rw [encode_cons, ih, letters_cons, encode_cons, flipCase_append (by simp),
      flipCase_of_unmarked hnone, hcount, Nat.add_zero]

lemma encode_recase (bits : Nat → Bool) (n : Name) :
    (n.recase bits).encode = flipCase bits 0 n.letters n.encode :=
  encode_recaseLabels bits 0 n.labels

/-! ### What stays the same -/

lemma map_lowerOctet_recaseOctets (bits : Nat → Bool) (i : Nat) (octets : Octets) :
    (recaseOctets bits i octets).1.map lowerOctet = octets.map lowerOctet := by
  fun_induction recaseOctets bits i octets with
  | case1 => rfl
  | case2 i b octets hletter r ih =>
    have hb : lowerOctet (if bits i then b ^^^ 0x20 else b) = lowerOctet b := by
      split_ifs
      · exact lowerOctet_xor hletter
      · rfl
    rw [List.map_cons, List.map_cons, hb, ih]
  | case3 i b octets hletter r ih => rw [List.map_cons, List.map_cons, ih]

/-- A name whose letters change their case stays the same name. -/
lemma fold_recase (bits : Nat → Bool) (n : Name) : (n.recase bits).fold = n.fold := by
  have hlabels : ∀ i labels,
      (recaseLabels bits i labels).map Label.fold = labels.map Label.fold := by
    intro i labels
    fun_induction recaseLabels bits i labels with
    | case1 => rfl
    | case2 i octets labels r ih =>
      simp only [List.map_cons, Label.fold, ih, r, map_lowerOctet_recaseOctets]
    | case3 i l labels hl ih => rw [List.map_cons, List.map_cons, ih]
  exact congrArg Name.mk (hlabels 0 n.labels)

lemma same_iff {n m : Name} : n.same m = true ↔ n.fold = m.fold := by
  rw [same, decide_eq_true_eq]

@[simp] lemma wireLength_fold (n : Name) : n.fold.wireLength = n.wireLength := by
  obtain ⟨labels⟩ := n
  induction labels with
  | nil => rfl
  | cons l labels ih =>
    simp only [fold, List.map_cons, wireLength_cons, Label.wireLength_fold] at ih ⊢
    rw [ih]

/-- Letters in another case take the same number of octets. -/
@[simp] lemma wireLength_recase (bits : Nat → Bool) (n : Name) :
    (n.recase bits).wireLength = n.wireLength := by
  rw [← wireLength_fold, fold_recase, wireLength_fold]

@[simp] lemma hashFeed_fold (n : Name) : n.fold.hashFeed = n.hashFeed := by
  simp [hashFeed, fold, List.flatMap_map]

@[simp] lemma hashFeed_recase (bits : Nat → Bool) (n : Name) :
    (n.recase bits).hashFeed = n.hashFeed := by
  rw [← hashFeed_fold, fold_recase, hashFeed_fold]

/-! ### What comes of it -/

/-- Letters are changed by the bits for them alone. -/
lemma recaseOctets_congr (h : ∀ j, i ≤ j → bits j = bits' j) :
    recaseOctets bits i octets = recaseOctets bits' i octets := by
  induction octets generalizing i with
  | nil => rfl
  | cons b octets ih =>
    have hrest : ∀ j, i + 1 ≤ j → bits j = bits' j := fun j hj => h j (Nat.le_of_succ_le hj)
    by_cases hletter : isLetter b = true
    · simp [recaseOctets, hletter, h i (Nat.le_refl i), ih hrest]
    · simp [recaseOctets, hletter, ih h]

lemma recaseLabels_congr {labels : List Label} (h : ∀ j, i ≤ j → bits j = bits' j) :
    recaseLabels bits i labels = recaseLabels bits' i labels := by
  fun_induction recaseLabels bits i labels with
  | case1 => rfl
  | case2 i octets labels r ih =>
    have hrest : ∀ j, r.2 ≤ j → bits j = bits' j := by
      intro j hj
      simp only [r, recaseOctets_eq] at hj
      exact h j (by omega)
    rw [recaseLabels, ← recaseOctets_congr h, ih hrest]
  | case3 i l labels hl ih =>
    cases l with
    | text octets => exact (hl octets rfl).elim
    | bits octets count => simp only [recaseLabels, ih h]

/-- Octets that are equal up to the case of their letters come from each other, whatever bits are
left for what follows. -/
lemma exists_recaseOctets (h : octets.map lowerOctet = octets'.map lowerOctet) (i : Nat)
    (rest : Nat → Bool) :
    ∃ bits j, recaseOctets bits i octets = (octets', j) ∧ ∀ k, j ≤ k → bits k = rest k := by
  induction octets generalizing octets' i with
  | nil =>
    obtain rfl : octets' = [] := List.map_eq_nil_iff.mp h.symm
    exact ⟨rest, i, rfl, fun _ _ => rfl⟩
  | cons b octets ih =>
    obtain ⟨b', octets', rfl, hb, h⟩ := List.map_eq_cons_iff.mp h.symm
    by_cases hletter : isLetter b = true
    · obtain ⟨bits, j, hbits, hrest⟩ := ih h.symm (i + 1)
      have hj : i + 1 ≤ j := by
        rw [recaseOctets_eq] at hbits
        obtain ⟨-, rfl⟩ := Prod.mk.inj hbits
        exact Nat.le_add_right _ _
      -- The bit for this letter is set if the case differs.
      have hcongr (k : Nat) (hk : i + 1 ≤ k) :
          Function.update bits i (decide (b' ≠ b)) k = bits k :=
        Function.update_of_ne (Nat.ne_of_gt hk) _ _
      have hcase : (if decide (b' ≠ b) = true then b ^^^ 0x20 else b) = b' := by
        rcases eq_or_eq_xor_of_lowerOctet hb.symm with rfl | ⟨-, heq⟩
        · simp
        · by_cases hne : b' = b <;> simp [hne, ← heq]
      refine ⟨Function.update bits i (decide (b' ≠ b)), j, ?_, fun k hk => ?_⟩
      · simp only [recaseOctets, hletter, if_true, Function.update_self, hcase,
          recaseOctets_congr hcongr, hbits]
      · rw [hcongr k (Nat.le_trans hj hk), hrest k hk]
    · obtain ⟨bits, j, hbits, hrest⟩ := ih h.symm i
      obtain rfl : b' = b :=
        (eq_or_eq_xor_of_lowerOctet hb.symm).resolve_right fun ⟨hb, _⟩ => hletter hb
      exact ⟨bits, j, by simp [recaseOctets, hletter, hbits], hrest⟩

lemma exists_recaseLabels {labels labels' : List Label}
    (h : labels.map Label.fold = labels'.map Label.fold) (i : Nat) :
    ∃ bits, recaseLabels bits i labels = labels' := by
  induction labels generalizing labels' i with
  | nil =>
    obtain rfl : labels' = [] := List.map_eq_nil_iff.mp h.symm
    exact ⟨fun _ => false, rfl⟩
  | cons l labels ih =>
    obtain ⟨l', labels', rfl, hl, hlabels⟩ := List.map_eq_cons_iff.mp h.symm
    cases l with
    | text octets =>
      cases l' with
      | bits => cases hl
      | text octets' =>
        obtain ⟨rest, hrest⟩ := ih hlabels.symm (i + (octets.map isLetter).count true)
        obtain ⟨bits, j, hbits, htail⟩ := exists_recaseOctets (Label.text.inj hl.symm) i rest
        have hj : i + (octets.map isLetter).count true = j := by
          rw [recaseOctets_eq] at hbits
          exact (Prod.mk.inj hbits).2
        rw [hj, ← recaseLabels_congr htail] at hrest
        exact ⟨bits, by simp only [recaseLabels, hbits, hrest]⟩
    | bits octets count =>
      cases l' with
      | text => cases hl
      | bits octets' count' =>
        cases hl
        obtain ⟨bits, hbits⟩ := ih hlabels.symm i
        exact ⟨bits, by simp only [recaseLabels, hbits]⟩

/-- The names that are equal to a name are those that it becomes when its letters change their
case. -/
lemma same_iff_exists_recase {n m : Name} : n.same m = true ↔ ∃ bits, m = n.recase bits := by
  rw [same_iff]
  constructor
  · intro h
    obtain ⟨bits, hbits⟩ := exists_recaseLabels (congrArg labels h) 0
    exact ⟨bits, congrArg mk hbits.symm⟩
  · rintro ⟨bits, rfl⟩
    exact (fold_recase bits n).symm

end Name

end StubResolver
