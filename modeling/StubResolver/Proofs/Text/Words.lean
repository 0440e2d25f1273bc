import Mathlib.Data.List.DropRight
import Mathlib.Data.List.TakeWhile
import StubResolver.Text.Words

/-!
# Splitting texts

Pieces are split off as the splitting of lists does it, so that what stands on the two sides of a
separator is split on its own. This holds for the lines of a text, and for its words, which do not
hang on the white space around it.
-/

namespace StubResolver.Text

open Unicode (isWhiteSpace)

variable {p : Char → Bool} {c : Char} {cs ds piece word line : List Char}
  {fields : List (List Char)}

/-! ### Pieces -/

lemma splitOn_cons (c : Char) :
    splitOn p (c :: cs) = if p c then [] :: splitOn p cs else splitOn.glue c (splitOn p cs) := rfl

lemma splitOn_eq_splitOnP : splitOn p cs = cs.splitOnP p := by
  induction cs with
  | nil => rfl
  | cons c cs ih =>
    rw [splitOn_cons, List.splitOnP_cons_eq_if_modifyHead, ih]
    split_ifs
    · rfl
    · cases hpieces : cs.splitOnP p with
      | nil => exact absurd hpieces (List.splitOnP_ne_nil p cs)
      | cons first others => rfl

lemma splitOn_ne_nil : splitOn p cs ≠ [] := by
  rw [splitOn_eq_splitOnP]
  exact List.splitOnP_ne_nil p cs

lemma eq_of_splitOn (h : splitOn p cs = [piece]) : piece = cs := by
  induction cs generalizing piece with
  | nil => simpa [splitOn] using h.symm
  | cons c cs ih =>
    rw [splitOn_cons] at h
    split_ifs at h with hc
    · exact absurd (List.tail_eq_of_cons_eq h) splitOn_ne_nil
    · cases hrest : splitOn p cs with
      | nil => exact absurd hrest splitOn_ne_nil
      | cons first others =>
        rw [hrest, splitOn.glue] at h
        obtain ⟨rfl, rfl⟩ := List.cons.inj h
        rw [ih hrest]

lemma forall_mem_splitOn (h : piece ∈ splitOn p cs) : ∀ c ∈ piece, p c = false := by
  induction cs generalizing piece with
  | nil =>
    obtain rfl : piece = [] := by simpa [splitOn] using h
    simp
  | cons c cs ih =>
    rw [splitOn_cons] at h
    split_ifs at h with hc
    · rcases List.mem_cons.mp h with rfl | h
      · simp
      · exact ih h
    · cases hrest : splitOn p cs with
      | nil => exact absurd hrest splitOn_ne_nil
      | cons first others =>
        rw [hrest] at h ih
        rcases List.mem_cons.mp h with rfl | h
        · exact List.forall_mem_cons.mpr ⟨by simpa using hc, ih List.mem_cons_self⟩
        · exact ih (List.mem_cons_of_mem _ h)

lemma splitOn_append_cons (hc : p c = true) :
    splitOn p (cs ++ c :: ds) = splitOn p cs ++ splitOn p ds := by
  simp only [splitOn_eq_splitOnP, List.splitOnP_append_cons _ _ hc]

/-- Fields without the separator between them are split apart again. -/
lemma splitOn_intercalate (hne : fields ≠ []) (h : ∀ field ∈ fields, c ∉ field) :
    splitOn (· == c) ([c].intercalate fields) = fields := by
  rw [splitOn_eq_splitOnP, ← List.splitOn_eq_splitOnP]
  exact List.splitOn_intercalate c h hne

/-! ### Lines -/

lemma lines_append_cons : lines (cs ++ '\n' :: ds) = lines cs ++ lines ds :=
  splitOn_append_cons rfl

lemma lines_of_notMem (h : '\n' ∉ line) : lines line = [line] := by
  rw [lines, splitOn_eq_splitOnP, List.splitOnP_eq_singleton]
  intro c hc
  simpa using ne_of_mem_of_not_mem hc h

/-! ### Words -/

lemma words_append (cs ds : List Char) (hc : isWhiteSpace c = true) :
    words (cs ++ c :: ds) = words cs ++ words ds := by
  rw [words, splitOn_append_cons hc, List.filter_append, ← words, ← words]

lemma words_cons_of_isWhiteSpace (hc : isWhiteSpace c = true) : words (c :: cs) = words cs :=
  words_append [] cs hc

lemma words_of_forall (hne : cs ≠ []) (h : ∀ c ∈ cs, isWhiteSpace c = false) :
    words cs = [cs] := by
  rw [words, splitOn_eq_splitOnP, List.splitOnP_eq_singleton h]
  simpa using hne

/-- A word in front of a separator is the first word. -/
lemma words_append_cons (hne : word ≠ []) (h : ∀ c ∈ word, isWhiteSpace c = false)
    (hc : isWhiteSpace c = true) : words (word ++ c :: cs) = word :: words cs := by
  rw [words_append word cs hc, words_of_forall hne h, List.singleton_append]

/-- The words of a text that begins with one. -/
lemma words_cons (hc : isWhiteSpace c = false) :
    words (c :: cs) = (c :: cs).takeWhile (!isWhiteSpace ·)
      :: words ((c :: cs).dropWhile (!isWhiteSpace ·)) := by
  have hfirst : ∀ d ∈ (c :: cs).takeWhile (!isWhiteSpace ·), isWhiteSpace d = false := by
    intro d hd
    simpa using List.mem_takeWhile_imp hd
  have hne : (c :: cs).takeWhile (!isWhiteSpace ·) ≠ [] := by simp [hc]
  have hsplit := List.takeWhile_append_dropWhile (p := (!isWhiteSpace ·)) (l := c :: cs)
  refine (congrArg words hsplit.symm).trans ?_
  cases hrest : (c :: cs).dropWhile (!isWhiteSpace ·) with
  | nil =>
    rw [List.append_nil, words_of_forall hne hfirst]
    rfl
  | cons d rest =>
    have hd : isWhiteSpace d = true := by
      have hne' : (c :: cs).dropWhile (!isWhiteSpace ·) ≠ [] := by simp [hrest]
      simpa [hrest] using List.head_dropWhile_not (!isWhiteSpace ·) hne'
    rw [words_append_cons hne hfirst hd, words_cons_of_isWhiteSpace hd]

lemma forall_mem_words (h : word ∈ words cs) : ∀ c ∈ word, isWhiteSpace c = false :=
  forall_mem_splitOn (List.mem_filter.mp h).1

/-! ### White space around a text -/

lemma words_dropWhile : words (cs.dropWhile isWhiteSpace) = words cs := by
  induction cs with
  | nil => rfl
  | cons c cs ih =>
    rw [List.dropWhile_cons]
    split_ifs with hc
    · rw [ih, words_cons_of_isWhiteSpace hc]
    · rfl

lemma words_dropTailWhile : words (dropTailWhile isWhiteSpace cs) = words cs := by
  induction cs using List.reverseRecOn with
  | nil => rfl
  | append_singleton cs c ih =>
    have hconcat := List.rdropWhile_concat isWhiteSpace cs c
    rw [dropTailWhile, ← List.rdropWhile, hconcat]
    split_ifs with hc
    · rw [words_append cs [] hc, ← ih]
      exact (List.append_nil _).symm
    · rfl

lemma words_trim : words (trim cs) = words cs := by
  rw [trim, words_dropTailWhile, words_dropWhile]

lemma trim_append_of_isWhiteSpace (hc : isWhiteSpace c = true) : trim (cs ++ [c]) = trim cs := by
  rw [trim, trim, List.dropWhile_append]
  split_ifs with h
  · rw [List.isEmpty_iff.mp h, List.dropWhile_cons_of_pos hc]
    rfl
  · exact List.rdropWhile_concat_pos isWhiteSpace (cs.dropWhile isWhiteSpace) c hc

end StubResolver.Text
