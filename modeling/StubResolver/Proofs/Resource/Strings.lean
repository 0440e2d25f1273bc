import StubResolver.Proofs.Text.Utf8
import StubResolver.Proofs.Text.Words
import StubResolver.Resource.Display
import StubResolver.Resource.Parse

/-!
# Reading the text form of strings

A string in quotes is read back, whatever it holds. A string without quotes is read word by word.
It is written without quotes if it has neither a space nor a quote, but words end at any white
space, so that a string with a tab or a line feed in it falls apart.
-/

namespace StubResolver.Resource

open Unicode (isWhiteSpace)

variable {cs rest : List Char} {done css : List (List Char)} {strings : List Octets}

/-! ### One string -/

lemma quotedOnto_flatMap_quotedChar {done : List Char} :
    quotedOnto done (cs.flatMap quotedChar ++ '"' :: rest) = some (done.reverse ++ cs, rest) := by
  induction cs generalizing done with
  | nil => simp [quotedOnto]
  | cons c cs ih =>
    rw [List.flatMap_cons, List.append_assoc, quotedChar]
    split_ifs with hc
    · have hnewline : c ≠ '\n' := by rcases hc with rfl | rfl <;> decide
      simp [quotedOnto, hnewline, ih]
    · simp only [not_or] at hc
      simp [quotedOnto, hc, ih]

/-- What stands behind a string: nothing, or a space and the next string. -/
inductive EndsString : List Char → Prop where
  | nil : EndsString []
  | space (tail : List Char) : EndsString (' ' :: tail)

lemma EndsString.takeWhile_eq (h : EndsString rest) : rest.takeWhile (!isWhiteSpace ·) = [] := by
  cases h <;> rfl

lemma EndsString.dropWhile_eq (h : EndsString rest) : rest.dropWhile (!isWhiteSpace ·) = rest := by
  cases h <;> rfl

/-- A word does not go on behind the string that it ends. -/
lemma word_append (hrest : EndsString rest) : nextString.word (cs ++ rest)
    = (cs.takeWhile (!isWhiteSpace ·), cs.dropWhile (!isWhiteSpace ·) ++ rest) := by
  rw [nextString.word, List.takeWhile_append, List.dropWhile_append, hrest.takeWhile_eq,
    hrest.dropWhile_eq, List.append_nil]
  congr 1
  · split_ifs with hall
    · exact ((List.takeWhile_prefix _).eq_of_length hall).symm
    · rfl
  · split_ifs with hall
    · rw [List.isEmpty_iff.mp hall, List.nil_append]
    · rfl

lemma stringsFrom_cons_of_isWhiteSpace {c : Char} (hc : isWhiteSpace c = true) :
    stringsFrom done (c :: cs) = stringsFrom done cs := by
  rw [stringsFrom, if_pos hc]

lemma stringsFrom_cons_of_not_isWhiteSpace {c : Char} (hc : isWhiteSpace c = false) :
    stringsFrom done (c :: cs)
      = stringsFrom ((nextString (c :: cs)).1 :: done) (nextString (c :: cs)).2 := by
  rw [stringsFrom, if_neg (by simp [hc])]

/-- Without quotes a string is read word by word. -/
lemma stringsFrom_words (done : List (List Char)) (cs : List Char) (hquote : '"' ∉ cs)
    (hrest : EndsString rest) :
    stringsFrom done (cs ++ rest) = stringsFrom ((Text.words cs).reverse ++ done) rest := by
  match cs with
  | [] => rfl
  | c :: cs =>
    have hsub : (c :: cs).dropWhile (!isWhiteSpace ·) ⊆ c :: cs := (List.dropWhile_sublist _).subset
    rw [List.cons_append]
    cases hc : isWhiteSpace c with
    | true =>
      rw [stringsFrom_cons_of_isWhiteSpace hc, Text.words_cons_of_isWhiteSpace hc]
      exact stringsFrom_words done cs (List.not_mem_of_not_mem_cons hquote) hrest
    | false =>
      have hnext : nextString (c :: (cs ++ rest)) = nextString.word (c :: cs ++ rest) := by
        unfold nextString
        split
        next heq =>
          exact absurd (List.cons.inj heq).1 (ne_of_mem_of_not_mem List.mem_cons_self hquote)
        next => rfl
      rw [stringsFrom_cons_of_not_isWhiteSpace hc, hnext, word_append hrest, Text.words_cons hc,
        List.reverse_cons, List.append_assoc]
      exact stringsFrom_words _ _ (fun hmem => hquote (hsub hmem)) hrest
termination_by cs.length
decreasing_by
  · exact length_word hc
  · exact Nat.lt_succ_self cs.length

/-- What is read where a string was written. -/
def readBack (cs : List Char) : List (List Char) :=
  if needsQuotes cs then [cs] else Text.words cs

lemma stringsFrom_stringChars (hrest : EndsString rest) :
    stringsFrom done (stringChars cs ++ rest)
      = stringsFrom ((readBack cs).reverse ++ done) rest := by
  unfold stringChars readBack
  split_ifs with hquotes
  · have hnext : nextString ('"' :: (cs.flatMap quotedChar ++ '"' :: rest)) = (cs, rest) := by
      rw [nextString, quotedOnto_flatMap_quotedChar]
      rfl
    have hquote : isWhiteSpace '"' = false := by decide
    simp [stringsFrom_cons_of_not_isWhiteSpace hquote, hnext]
  · have hquote : '"' ∉ cs := by
      intro hmem
      exact hquotes (by simp [needsQuotes, hmem])
    exact stringsFrom_words done cs hquote hrest

/-! ### Several strings -/

/-- Strings with spaces between them are read one after the other. -/
lemma stringsFrom_intercalate : stringsFrom done ([' '].intercalate (css.map stringChars))
    = done.reverse ++ css.flatMap readBack := by
  induction css generalizing done with
  | nil => simp [stringsFrom]
  | cons cs css ih =>
    cases css with
    | nil =>
      have hlast : stringsFrom done (stringChars cs ++ [])
          = stringsFrom ((readBack cs).reverse ++ done) [] := stringsFrom_stringChars .nil
      simpa [stringsFrom] using hlast
    | cons cs' css =>
      have hspace : isWhiteSpace ' ' = true := by decide
      rw [List.map_cons, List.map_cons, List.intercalate_cons_cons, List.append_assoc,
        List.singleton_append, stringsFrom_stringChars (.space _),
        stringsFrom_cons_of_isWhiteSpace hspace, ← List.map_cons, ih]
      simp

/-- The strings that are read where strings were written. -/
def restored (strings : List Octets) : List Octets :=
  strings.flatMap fun s => (readBack (Utf8.decodeLossy s)).map Utf8.encode

/-- The text form of strings is read, unless there is nothing to read in it. -/
lemma parse_text_txt : parse .txt (txt strings).text =
    if restored strings = [] then .error .fields else .ok (.txt (restored strings)) := by
  have htext : (txt strings).text.toList
      = [' '].intercalate ((strings.map Utf8.decodeLossy).map stringChars) := by
    simp [text, stringsText, String.toList_intercalate, Function.comp_def]
  have hrestored : restored strings
      = ((strings.map Utf8.decodeLossy).flatMap readBack).map Utf8.encode := by
    rw [restored, List.map_flatMap, List.flatMap_map]
  rw [parse, htext, parseTxt, stringsFrom_intercalate, hrestored]
  simp only [List.reverse_nil, List.nil_append, List.map_eq_nil_iff]
  split
  next hnil => rw [if_pos hnil]
  next hne => rw [if_neg hne]

/-! ### Strings that fall apart -/

/-- A string that is written without quotes, although it has white space. -/
def FallsApart (cs : List Char) : Prop :=
  cs.any isWhiteSpace = true ∧ ' ' ∉ cs ∧ '"' ∉ cs

instance : DecidablePred FallsApart := fun cs => by unfold FallsApart; infer_instance

lemma needsQuotes_eq_false_iff : needsQuotes cs = false ↔ cs ≠ [] ∧ ' ' ∉ cs ∧ '"' ∉ cs := by
  simp [needsQuotes, and_assoc]

lemma readBack_eq_singleton (h : ¬ FallsApart cs) : readBack cs = [cs] := by
  unfold readBack
  split_ifs with hquotes
  · rfl
  · obtain ⟨hne, hspace, hquote⟩ := needsQuotes_eq_false_iff.mp (by simpa using hquotes)
    refine Text.words_of_forall hne fun c hc => ?_
    by_contra hwhite
    exact h ⟨List.any_eq_true.mpr ⟨c, hc, by simpa using hwhite⟩, hspace, hquote⟩

/-- Nothing that is read falls apart. -/
lemma not_fallsApart_of_mem_readBack {s : List Char} (h : s ∈ readBack cs) : ¬ FallsApart s := by
  rintro ⟨hany, hspace, hquote⟩
  obtain ⟨c, hc, hwhite⟩ := List.any_eq_true.mp hany
  unfold readBack at h
  split_ifs at h with hquotes
  · obtain rfl := List.mem_singleton.mp h
    have hnil : s = [] := by simpa [needsQuotes, hspace, hquote] using hquotes
    simp [hnil] at hc
  · rw [Text.forall_mem_words h c hc] at hwhite
    cases hwhite

lemma not_fallsApart_of_mem_restored {s : Octets} (h : s ∈ restored strings) :
    ¬ FallsApart (Utf8.decodeLossy s) := by
  obtain ⟨s', -, hs⟩ := List.mem_flatMap.mp h
  obtain ⟨cs, hcs, rfl⟩ := List.mem_map.mp hs
  rw [Utf8.decodeLossy_encode]
  exact not_fallsApart_of_mem_readBack hcs

/-- Strings of text are read back from their text form exactly if none of them falls apart. -/
theorem parse_text_txt_iff (hne : strings ≠ [])
    (htext : ∀ s ∈ strings, ∃ cs, Utf8.decode? s = .ok cs) :
    parse .txt (txt strings).text = .ok (txt strings)
      ↔ ∀ s ∈ strings, ¬ FallsApart (Utf8.decodeLossy s) := by
  have hparse : parse .txt (txt strings).text = .ok (txt strings) ↔ restored strings = strings := by
    rw [parse_text_txt]
    split_ifs with hnil
    · simp [hnil, hne.symm]
    · simp
  rw [hparse]
  constructor
  · intro h s hs
    exact not_fallsApart_of_mem_restored (h.symm ▸ hs)
  · intro h
    have hstring : ∀ s ∈ strings, (readBack (Utf8.decodeLossy s)).map Utf8.encode = [s] := by
      intro s hs
      obtain ⟨cs, hcs⟩ := htext s hs
      obtain rfl := Utf8.decode?_eq_ok_iff.mp hcs
      rw [readBack_eq_singleton (h _ hs), Utf8.decodeLossy_encode, List.map_singleton]
    rw [restored, List.flatMap_congr hstring, List.flatMap_singleton']

/-- A string with a space and a tab, an empty one, a backslash, a quote and a letter outside of
ASCII are read back. -/
theorem parse_text_txt_iff_quoted :
    let texts : List (List Char) := [['a', ' ', '\t'], [], ['\\'], ['"'], ['ü']]
    let strings := texts.map Utf8.encode
    strings ≠ [] ∧ (∀ s ∈ strings, ∃ cs, Utf8.decode? s = .ok cs) ∧
      (∀ s ∈ strings, ¬ FallsApart (Utf8.decodeLossy s)) ∧
      parse .txt (txt strings).text = .ok (txt strings) := by
  intro texts strings
  have htext : ∀ s ∈ strings, ∃ cs, Utf8.decode? s = .ok cs :=
    List.forall_mem_map.mpr fun cs _ => ⟨cs, Utf8.decode?_eq_ok_iff.mpr rfl⟩
  have hwhole : ∀ s ∈ strings, ¬ FallsApart (Utf8.decodeLossy s) := by
    have htexts : ∀ cs ∈ texts, ¬ FallsApart cs := by decide
    refine List.forall_mem_map.mpr fun cs hcs => ?_
    rw [Utf8.decodeLossy_encode]
    exact htexts cs hcs
  exact ⟨by decide, htext, hwhole, (parse_text_txt_iff (by decide) htext).mpr hwhole⟩

/-- A string of two letters with a tab between them is read as two strings. -/
theorem parse_text_txt_of_tab :
    let strings : List Octets := [[0x61, 0x09, 0x62]]
    strings ≠ [] ∧ (∀ s ∈ strings, ∃ cs, Utf8.decode? s = .ok cs) ∧
      parse .txt (txt strings).text ≠ .ok (txt strings) ∧
      parse .txt (txt strings).text = .ok (txt [[0x61], [0x62]]) := by
  intro strings
  have htext : ∀ s ∈ strings, ∃ cs, Utf8.decode? s = .ok cs := by
    intro s hs
    obtain rfl := List.mem_singleton.mp hs
    exact ⟨['a', '\t', 'b'], rfl⟩
  have hrestored : restored strings = [[0x61], [0x62]] := by decide
  have hparse : parse .txt (txt strings).text = .ok (txt [[0x61], [0x62]]) := by
    rw [parse_text_txt, hrestored, if_neg (by decide)]
  exact ⟨by decide, htext, by simp [hparse, strings], hparse⟩

end StubResolver.Resource
