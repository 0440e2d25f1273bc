import Mathlib.Tactic.IntervalCases
import StubResolver.Proofs.Wire.Result
import StubResolver.Text.Hex
import StubResolver.Text.Numeral

/-!
# Reading digits that were written

Octets in upper case digits and numbers in decimal digits are read back without a loss. Octets are
read from pairs of hexadecimal digits and from nothing else, and a number from a numeral that its
bound allows.
-/

namespace StubResolver

/-! ### Hexadecimal digits -/

namespace Hex

lemma digit?_upperDigit {n : Nat} (h : n < 16) : digit? (upperDigit n) = some n := by
  interval_cases n <;> rfl

lemma octets?_flatMap_upperOctet (octets : List UInt8) :
    octets? (octets.flatMap upperOctet) = some octets := by
  induction octets with
  | nil => rfl
  | cons b octets ih =>
    have hb := b.toNat_lt
    have hhigh : digit? (upperDigit (b.toNat / 16)) = some (b.toNat / 16) :=
      digit?_upperDigit (by omega)
    have hlow : digit? (upperDigit (b.toNat % 16)) = some (b.toNat % 16) :=
      digit?_upperDigit (by omega)
    have hvalue : UInt8.ofNat (16 * (b.toNat / 16) + b.toNat % 16) = b := by
      rw [Nat.div_add_mod, UInt8.ofNat_toNat]
    simp only [List.flatMap_cons, upperOctet, List.cons_append, List.nil_append, octets?, hhigh,
      hlow, ih, hvalue, Option.bind_eq_bind, Option.bind_some, Option.pure_def]

/-- Pairs of digits hold nothing but digits. -/
lemma isDigit_of_octets? {cs : List Char} {octets : List UInt8} (h : octets? cs = some octets) :
    ∀ c ∈ cs, isDigit c = true := by
  fun_induction octets? cs generalizing octets with
  | case1 => simp
  | case2 => cases h
  | case3 high low rest ih =>
    simp only [Option.bind_eq_bind, Option.bind_eq_some_iff] at h
    obtain ⟨n, hhigh, m, hlow, octets', hrest, -⟩ := h
    refine List.forall_mem_cons.mpr ⟨by simp [isDigit, hhigh], ?_⟩
    exact List.forall_mem_cons.mpr ⟨by simp [isDigit, hlow], ih hrest⟩

/-- Pairs of digits write octets, high half first. -/
inductive Writes : List Char → List UInt8 → Prop where
  | nil : Writes [] []
  | cons {high low : Char} {n m : Nat} {cs : List Char} {octets : List UInt8}
      (hhigh : digit? high = some n) (hlow : digit? low = some m) (h : Writes cs octets) :
      Writes (high :: low :: cs) (.ofNat (16 * n + m) :: octets)

/-- Octets are read from digits exactly if the digits write them. -/
lemma octets?_eq_some_iff {cs : List Char} {octets : List UInt8} :
    octets? cs = some octets ↔ Writes cs octets := by
  constructor
  · intro h
    fun_induction octets? cs generalizing octets with
    | case1 =>
      cases h
      exact .nil
    | case2 => cases h
    | case3 high low rest ih =>
      simp only [Option.bind_eq_bind, Option.bind_eq_some_iff] at h
      obtain ⟨n, hhigh, m, hlow, octets', hrest, h⟩ := h
      cases h
      exact .cons hhigh hlow (ih hrest)
  · intro h
    induction h with
    | nil => rfl
    | cons hhigh hlow _ ih => simp [octets?, hhigh, hlow, ih]

lemma writes_flatMap_upperOctet (octets : List UInt8) :
    Writes (octets.flatMap upperOctet) octets :=
  octets?_eq_some_iff.mp (octets?_flatMap_upperOctet octets)

/-- Digits that write octets are hexadecimal digits. -/
lemma Writes.isDigit {cs : List Char} {octets : List UInt8} (h : Writes cs octets) :
    ∀ c ∈ cs, isDigit c = true := isDigit_of_octets? (octets?_eq_some_iff.mpr h)

end Hex

/-! ### Decimal digits -/

namespace Numeral

lemma digit?_digitChar {d : Nat} (h : d < 10) : digit? (Nat.digitChar d) = some d := by
  interval_cases d <;> rfl

lemma push_digitChar {max n d : Nat} (hd : d < 10) (h : 10 * n + d ≤ max) :
    push max n (Nat.digitChar d) = .ok (10 * n + d) := by
  simp only [push, digit?_digitChar hd, h, if_true]

lemma ofDigits_toChars {max n : Nat} (h : n ≤ max) : ofDigits max (toChars n) = .ok n := by
  -- The digits are those of `n / 10`, which is read first, and the last one.
  induction n using Nat.strong_induction_on with
  | h n ih =>
    unfold toChars ofDigits at ih ⊢
    rw [Nat.toDigits_eq_if (by decide)]
    split_ifs with hn
    · have hdigit : push max 0 (Nat.digitChar n) = .ok (10 * 0 + n) :=
        push_digitChar hn (by omega)
      rw [Nat.mul_zero, Nat.zero_add] at hdigit
      rw [List.foldlM_cons, hdigit]
      rfl
    · have hlast : push max (n / 10) (Nat.digitChar (n % 10)) = .ok (10 * (n / 10) + n % 10) :=
        push_digitChar (by omega) (by omega)
      rw [Nat.div_add_mod] at hlast
      rw [List.foldlM_append, ih (n / 10) (by omega) (by omega)]
      change List.foldlM (push max) (n / 10) [Nat.digitChar (n % 10)] = .ok n
      rw [List.foldlM_cons, hlast]
      rfl

lemma isDigit_of_mem_toChars {n : Nat} {c : Char} (h : c ∈ toChars n) : c.isDigit = true :=
  Nat.isDigit_of_mem_toDigits (by decide) (by decide) h

/-- A numeral without a sign is read digit by digit. -/
lemma ofChars_eq_ofDigits {max : Nat} {cs : List Char} (hne : cs ≠ []) (hsign : '+' ∉ cs) :
    ofChars max cs = ofDigits max cs := by
  unfold ofChars
  split <;> simp_all

lemma ofChars_toChars {max n : Nat} (h : n ≤ max) : ofChars max (toChars n) = .ok n := by
  have hsign : '+' ∉ toChars n := fun hmem => absurd (isDigit_of_mem_toChars hmem) (by decide)
  have hne : toChars n ≠ [] := Nat.toDigits_ne_nil
  rw [ofChars_eq_ofDigits hne hsign, ofDigits_toChars h]

/-! ### Numerals -/

variable {max n m : Nat} {c : Char} {cs : List Char}

lemma digit?_eq_some_iff : digit? c = some n ↔ c.isDigit = true ∧ c.toNat - '0'.toNat = n := by
  simp [digit?]

lemma digit?_eq_none_iff : digit? c = none ↔ c.isDigit = false := by
  simp [digit?]

lemma isDigit_eq_false_of_le (h : 0x80 ≤ c.toNat) : c.isDigit = false := by
  have hnine : 57 < c.val := UInt32.lt_iff_toNat_lt.mpr (Nat.lt_of_lt_of_le (by decide) h)
  simp [Char.isDigit, hnine]

/-- The number read so far with one more digit behind it. -/
def append (n : Nat) (c : Char) : Nat := 10 * n + (c.toNat - '0'.toNat)

/-- The number that decimal digits write. -/
def value (digits : List Char) : Nat := digits.foldl append 0

/-- Decimal digits, at least one and perhaps with a plus sign in front, write a number. -/
def Writes (cs : List Char) (n : Nat) : Prop :=
  ∃ digits, (cs = digits ∨ cs = '+' :: digits) ∧ digits ≠ [] ∧
    (∀ c ∈ digits, c.isDigit = true) ∧ value digits = n

/-- The number that three digits write. -/
lemma value_three (d e f : Char) : value [d, e, f]
    = 100 * (d.toNat - '0'.toNat) + 10 * (e.toNat - '0'.toNat) + (f.toNat - '0'.toNat) := by
  simp only [value, append, List.foldl_cons, List.foldl_nil]
  omega

lemma push_eq_ok_iff : push max n c = .ok m ↔ c.isDigit = true ∧ append n c = m ∧ m ≤ max := by
  unfold push digit? append
  split_ifs <;> grind

lemma le_foldl_append : n ≤ cs.foldl append n := by
  induction cs generalizing n with
  | nil => exact Nat.le_refl n
  | cons c cs ih =>
    have : n ≤ append n c := by
      unfold append
      omega
    exact Nat.le_trans this ih

lemma foldlM_push_eq_ok_iff (hn : n ≤ max) : cs.foldlM (push max) n = .ok m ↔
    (∀ c ∈ cs, c.isDigit = true) ∧ cs.foldl append n = m ∧ m ≤ max := by
  induction cs generalizing n with
  | nil =>
    have hnil : [].foldlM (push max) n = .ok m ↔ n = m := by simp [pure, Except.pure]
    rw [hnil]
    simp
    omega
  | cons c cs ih =>
    rw [List.foldlM_cons, except_bind_eq_ok_iff, List.forall_mem_cons, List.foldl_cons]
    constructor
    · rintro ⟨n', hpush, hrest⟩
      obtain ⟨hc, rfl, hn'⟩ := push_eq_ok_iff.mp hpush
      obtain ⟨hcs, hm, hmax⟩ := (ih hn').mp hrest
      exact ⟨⟨hc, hcs⟩, hm, hmax⟩
    · rintro ⟨⟨hc, hcs⟩, hm, hmax⟩
      have hn' : append n c ≤ max := by
        refine Nat.le_trans le_foldl_append (Nat.le_trans (Nat.le_of_eq hm) hmax)
      exact ⟨_, push_eq_ok_iff.mpr ⟨hc, rfl, hn'⟩, (ih hn').mpr ⟨hcs, hm, hmax⟩⟩

lemma ofDigits_eq_ok_iff : ofDigits max cs = .ok n ↔
    (∀ c ∈ cs, c.isDigit = true) ∧ value cs = n ∧ n ≤ max := foldlM_push_eq_ok_iff (Nat.zero_le _)

/-- A number is read from a numeral exactly if the numeral writes it and the bound allows it. -/
lemma ofChars_eq_ok_iff : ofChars max cs = .ok n ↔ Writes cs n ∧ n ≤ max := by
  unfold ofChars Writes
  split
  · simp
  · simp
  next digits hne =>
    have hne : digits ≠ [] := hne
    simp [ofDigits_eq_ok_iff, hne, and_assoc]
  next hne _ hsign =>
    have hne : cs ≠ [] := hne
    have hsign : ∀ digits, cs ≠ '+' :: digits := hsign
    simp [ofDigits_eq_ok_iff, hne, hsign, and_assoc]

lemma Writes.unique (h : Writes cs n) (h' : Writes cs m) : n = m := by
  have hread := ofChars_eq_ok_iff.mpr ⟨h, Nat.le_max_left n m⟩
  rw [ofChars_eq_ok_iff.mpr ⟨h', Nat.le_max_right n m⟩] at hread
  exact (Except.ok.inj hread).symm

lemma writes_toChars (n : Nat) : Writes (toChars n) n :=
  (ofChars_eq_ok_iff.mp (ofChars_toChars (Nat.le_refl n))).1

end Numeral

end StubResolver
