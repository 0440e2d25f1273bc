import Mathlib.Data.List.Forall2
import StubResolver.Idna.Basic
import StubResolver.Proofs.Text.Words

/-!
# Empty ASCII forms

A text has the empty ASCII form exactly if mapping and normalisation leave nothing of it, or leave
the mark of an encoded label with no encoding behind it.
-/

namespace StubResolver

/-! ### Decoding -/

namespace Punycode

namespace Reader

variable {r r' : Reader} {c : Char} {cs : List Char}

lemma output_ne_nil_of_insert (h : r.insert = some r') : r'.output ≠ [] := by
  unfold insert at h
  dsimp only at h
  split_ifs at h
  cases h
  simp

/-- A digit ends a number, which inserts a character, or the number goes on. -/
lemma step_cases (h : r.step c = some r') :
    r'.output ≠ [] ∨ (r'.k = r.k + base ∧ r'.output = r.output) := by
  simp only [step, Option.bind_eq_bind, Option.bind_eq_some_iff] at h
  obtain ⟨d, -, h⟩ := h
  split_ifs at h
  · exact .inl (output_ne_nil_of_insert h)
  · cases h
    exact .inr ⟨rfl, rfl⟩

/-- A reader that has read a digit has text, or stands inside a number. -/
lemma output_ne_nil_or_lt (hr : r.output ≠ [] ∨ base ≤ r.k) (h : (c :: cs).foldlM step r = some r')
    : r'.output ≠ [] ∨ base < r'.k := by
  -- A digit that ends a number leaves text behind, and any other one raises `k`.
  induction cs generalizing r c with
  | nil =>
    have h : r.step c = some r' := by simpa using h
    obtain hout | ⟨hk, hout⟩ := step_cases h
    · exact .inl hout
    · rw [hk, hout]
      have : 0 < base := by decide
      exact hr.imp_right (by omega)
  | cons c' cs ih =>
    rw [List.foldlM_cons, Option.bind_eq_bind, Option.bind_eq_some_iff] at h
    obtain ⟨r₁, hstep, h⟩ := h
    refine ih ?_ h
    obtain hout | ⟨hk, hout⟩ := step_cases hstep
    · exact .inl hout
    · rw [hk, hout]
      exact hr.imp_right (by omega)

end Reader

lemma decode?_eq_nil_iff {cs : List Char} : decode? cs = some [] ↔ cs = [] := by
  refine ⟨fun h => ?_, by rintro rfl; rfl⟩
  by_contra hcs
  unfold decode? at h
  dsimp only at h
  split_ifs at h with hmark hascii
  simp only [Option.bind_eq_bind, Option.bind_eq_some_iff] at h
  obtain ⟨r, hread, h⟩ := h
  split_ifs at h with hcomplete
  have hout : r.output = [] := Option.some.inj h
  cases hnumbers : (cs.reverse.takeWhile (· ≠ '-')).reverse with
  | nil =>
    -- The text ends in a hyphen, so that there are ASCII characters before it.
    rw [hnumbers] at hread hmark
    cases hread
    refine hmark ⟨?_, hout⟩
    rw [List.reverse_eq_nil_iff, List.takeWhile_eq_nil_iff] at hnumbers
    have hpos : 0 < cs.reverse.length := by simpa using List.length_pos_iff.mpr hcs
    have hhead : cs.reverse[0] = '-' := by simpa using hnumbers hpos
    exact List.mem_reverse.mp (hhead ▸ List.getElem_mem hpos)
  | cons c rest =>
    rw [hnumbers] at hread
    rcases Reader.output_ne_nil_or_lt (.inr (Nat.le_refl base)) hread with hne | hlt
    · exact hne hout
    · have hk : r.k = base := by simpa [Reader.isComplete] using hcomplete
      omega

end Punycode

/-! ### Labels -/

namespace Idna

open Unicode

variable {cs ascii : List Char} {pieces decoded : List (List Char)} {found : List Fault}

lemma decodeLabel_eq_nil_iff : decodeLabel [] cs = ([], []) ↔ cs = [] ∨ cs = encodedMark := by
  constructor
  · intro h
    unfold decodeLabel at h
    by_cases hmark : encodedMark.isPrefixOf cs = true
    · rw [if_pos hmark] at h
      obtain ⟨encoding, rfl⟩ := List.isPrefixOf_iff_prefix.mp hmark
      rw [List.drop_left] at h
      split at h
      next => cases h
      next label hlabel =>
        -- Whatever is wrong with the label, it is the one that was read.
        have hnil : label = [] := by
          rw [List.isEmpty_nil, Bool.not_true, if_neg Bool.false_ne_true] at h
          split_ifs at h <;> exact (Prod.mk.inj h).1
        rw [hnil, Punycode.decode?_eq_nil_iff] at hlabel
        rw [hlabel, List.append_nil]
        exact .inr rfl
    · rw [if_neg hmark] at h
      exact .inl (Prod.mk.inj h).1
  · rintro (rfl | rfl) <;> rfl

/-- Where nothing is found, nothing was found before, and each label is decoded for itself. -/
lemma forall₂_of_decodeLabels (h : decodeLabels found pieces = (decoded, [])) : found = [] ∧
    List.Forall₂ (fun piece label => decodeLabel [] piece = (label, [])) pieces decoded := by
  induction pieces generalizing found decoded with
  | nil =>
    obtain ⟨rfl, rfl⟩ := Prod.mk.inj h
    exact ⟨rfl, .nil⟩
  | cons piece pieces ih =>
    obtain ⟨rfl, hrest⟩ := Prod.mk.inj h
    obtain ⟨hfound, hlabels⟩ := ih (Prod.ext rfl hrest)
    obtain ⟨rfl, hfaults⟩ := List.append_eq_nil_iff.mp hfound
    exact ⟨rfl, .cons (Prod.ext rfl hfaults) hlabels⟩

lemma encodeLabel?_eq_nil_iff : encodeLabel? cs = some [] ↔ cs = [] := by
  unfold encodeLabel?
  split_ifs with hascii
  · simp
  · simp only [Option.map_eq_some_iff, List.append_eq_nil_iff, encodedMark, reduceCtorEq,
      false_and, and_false, exists_false, false_iff]
    rintro rfl
    exact hascii rfl

/-- Whether mapping and normalisation leave nothing of a text, or only the mark of an encoded
label. -/
def IsInvisible (cs : List Char) : Prop :=
  ∃ mapped, mapText cs = (mapped, []) ∧ (nfc mapped = [] ∨ nfc mapped = encodedMark)

lemma joinLabels_eq_nil_iff {ls : List (List Char)} : joinLabels ls = [] ↔ ls = [] ∨ ls = [[]] := by
  rcases ls with _ | ⟨first, _ | ⟨second, others⟩⟩
  · simp [joinLabels]
  · simp [joinLabels]
  · simp [joinLabels, List.intercalate_cons_cons]

lemma mapM_eq_nil_iff {α β : Type} {f : α → Option β} {xs : List α} :
    xs.mapM f = some [] ↔ xs = [] := by
  cases xs <;> simp [Option.bind_eq_some_iff]

lemma mapM_eq_singleton_iff {α β : Type} {f : α → Option β} {xs : List α} {y : β} :
    xs.mapM f = some [y] ↔ ∃ x, xs = [x] ∧ f x = some y := by
  rcases xs with _ | ⟨x, _ | ⟨x', xs⟩⟩ <;> simp [Option.bind_eq_some_iff]

/-- A text with an ASCII form has nothing wrong with it from the mapping to the encoding. -/
lemma of_toAscii (h : toAscii cs = .ok ascii) : ∃ mapped decoded encoded,
    mapText cs = (mapped, []) ∧
      List.Forall₂ (fun piece label => decodeLabel [] piece = (label, []))
        (labels (nfc mapped)) decoded ∧
      decoded.mapM encodeLabel? = some encoded ∧ ascii = joinLabels encoded := by
  simp only [toAscii] at h
  split at h
  · cases h
  next encoded hencode =>
    split_ifs at h with hdirection hnone hnone
    · simp at hnone
    · obtain ⟨hmapped, hdecoded⟩ :=
        forall₂_of_decodeLabels (Prod.ext rfl (List.isEmpty_iff.mp hnone))
      exact ⟨_, _, encoded, Prod.ext rfl hmapped, hdecoded, hencode, (Except.ok.inj h).symm⟩

/-- A text has the empty ASCII form exactly if it is invisible. -/
lemma toAscii_eq_nil_iff : toAscii cs = .ok [] ↔ IsInvisible cs := by
  constructor
  · intro h
    obtain ⟨mapped, decoded, encoded, hmap, hdecode, hencode, hjoin⟩ := of_toAscii h
    refine ⟨mapped, hmap, ?_⟩
    rcases joinLabels_eq_nil_iff.mp hjoin.symm with rfl | rfl
    · rw [mapM_eq_nil_iff] at hencode
      rw [hencode, List.forall₂_nil_right_iff] at hdecode
      exact absurd hdecode Text.splitOn_ne_nil
    · obtain ⟨label, rfl, hlabel⟩ := mapM_eq_singleton_iff.mp hencode
      obtain ⟨piece, rest, hdecoded, hrest, hpiece⟩ := List.forall₂_cons_right_iff.mp hdecode
      obtain rfl := List.forall₂_nil_right_iff.mp hrest
      rw [encodeLabel?_eq_nil_iff.mp hlabel, decodeLabel_eq_nil_iff] at hdecoded
      rwa [Text.eq_of_splitOn hpiece] at hdecoded
  · rintro ⟨mapped, hmap, h | h⟩ <;>
    simp only [toAscii, hmap, h] <;> rfl

end Idna

end StubResolver
