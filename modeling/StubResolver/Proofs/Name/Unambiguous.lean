import StubResolver.Proofs.Name.Text

/-!
# Text forms are unambiguous

The text form of a label says where the label ends, whatever follows it, and what kind of label it
is. So no two names have the same text form, except that a single empty label is written as the
root is. Names that are not read back from their text forms are no exception.
-/

namespace StubResolver

namespace Label

variable {octets octets' : Octets} {count count' : Nat} {l l' : Label} {rest rest' : List Char}

/-! ### Labels of one kind -/

/-- The text form of a label of text can be cut off in front of the point behind it. -/
lemma text_append_inj
    (h : (text octets).chars ++ '.' :: rest = (text octets').chars ++ '.' :: rest') :
    octets = octets' ∧ rest = rest' := by
  have hread := congrArg (itemsOnto []) h
  simp only [chars, itemsOnto_flatMap_octetText, Except.ok.injEq, Prod.mk.injEq] at hread
  obtain ⟨hitems, hrest⟩ := hread
  refine ⟨?_, hrest⟩
  exact List.map_injective_iff.mpr (fun b b' h => Item.octet.inj h) (by simpa using hitems)

lemma flatMap_upperOctet_injective :
    Function.Injective fun octets : Octets => octets.flatMap Hex.upperOctet := by
  intro octets octets' h
  have hread := congrArg Hex.octets? h
  simpa only [Hex.octets?_flatMap_upperOctet, Option.some.injEq] using hread

lemma toChars_injective : Function.Injective Numeral.toChars := by
  intro n m h
  have hread := congrArg (Numeral.ofChars (max n m)) h
  rw [Numeral.ofChars_toChars (Nat.le_max_left n m),
    Numeral.ofChars_toChars (Nat.le_max_right n m)] at hread
  exact Except.ok.inj hread

/-- What stands in a label of bits, and behind it. -/
lemma bits_append (octets : Octets) (count : Nat) (rest : List Char) :
    (bits octets count).chars ++ '.' :: rest
      = '\\' :: '[' :: 'x' :: (octets.flatMap Hex.upperOctet
        ++ '/' :: (Numeral.toChars count ++ ']' :: '.' :: rest)) := by
  simp [chars]

/-- The text form of a label of bits can be cut off as well. -/
lemma bits_append_inj
    (h : (bits octets count).chars ++ '.' :: rest = (bits octets' count').chars ++ '.' :: rest') :
    octets = octets' ∧ count = count' ∧ rest = rest' := by
  have hslash (octets : Octets) : '/' ∉ octets.flatMap Hex.upperOctet :=
    notMem_flatMap_upperOctet octets rfl
  have hbracket (count : Nat) : ']' ∉ Numeral.toChars count := fun hmem =>
    absurd (Numeral.isDigit_of_mem_toChars hmem) (by decide)
  simp only [bits_append, List.cons.injEq, true_and] at h
  obtain ⟨hdigits, h⟩ := append_cons_inj (hslash octets) (hslash octets') h
  obtain ⟨hnumeral, h⟩ := append_cons_inj (hbracket count) (hbracket count') h
  exact ⟨flatMap_upperOctet_injective hdigits, toChars_injective hnumeral, (List.cons.inj h).2⟩

/-! ### Labels of both kinds -/

/-- A label of text that begins with a bracket is not written like a label of bits, as it has no
slash in front of the next backslash. -/
lemma text_append_ne (hrest : IsGuarded rest) :
    (text octets).chars ++ '.' :: rest ≠ (bits octets' count).chars ++ '.' :: rest' := by
  intro h
  rw [bits_append] at h
  obtain _ | ⟨b, octets⟩ := octets
  · cases h
  rw [chars, List.flatMap_cons, List.append_assoc] at h
  by_cases hb : b = openingBracket
  · subst hb
    have hbody : octets.flatMap octetText ++ '.' :: rest
        = 'x' :: octets'.flatMap Hex.upperOctet
          ++ '/' :: (Numeral.toChars count ++ ']' :: '.' :: rest') :=
      (List.cons.inj (List.cons.inj h).2).2
    have hguarded : IsGuarded (octets.flatMap octetText ++ '.' :: rest) :=
      (IsGuarded.flatMap fun b _ => isGuarded_octetText b).append (.inr ⟨.inr rfl, hrest⟩)
    have hslash : '/' ∉ 'x' :: octets'.flatMap Hex.upperOctet := by
      simpa using notMem_flatMap_upperOctet (a := '/') octets' rfl
    rw [hbody] at hguarded
    have hmem := hguarded.mem_takeWhile (a := '/') (by decide) (by decide) (.inl (by simp))
    rw [takeWhile_ne_append hslash] at hmem
    exact notMem_flatMap_upperOctet octets' rfl (List.mem_of_ne_of_mem (by decide) hmem)
  · have hstart : StartsWithText (octetText b ++ (octets.flatMap octetText ++ '.' :: rest)) :=
      startsWithText_octetText hb
    rw [h] at hstart
    exact hstart ⟨_, rfl⟩

/-- A text form of a label is cut off from the text forms behind it in one way only. -/
lemma chars_append_inj (hrest : IsGuarded rest) (hrest' : IsGuarded rest')
    (h : l.chars ++ '.' :: rest = l'.chars ++ '.' :: rest') : l = l' ∧ rest = rest' := by
  cases l with
  | text octets =>
    cases l' with
    | text octets' =>
      obtain ⟨rfl, hrest⟩ := text_append_inj h
      exact ⟨rfl, hrest⟩
    | bits octets' count' => exact (text_append_ne hrest h).elim
  | bits octets count =>
    cases l' with
    | text octets' => exact (text_append_ne hrest' h.symm).elim
    | bits octets' count' =>
      obtain ⟨rfl, rfl, hrest⟩ := bits_append_inj h
      exact ⟨rfl, hrest⟩

end Label

/-! ### Names -/

namespace Name

variable {n m : Name}

lemma labelChars_injective : Function.Injective labelChars := by
  intro labels
  induction labels with
  | nil =>
    rintro (_ | ⟨l', labels'⟩) h
    · rfl
    · exact absurd h.symm (labelChars_ne_nil l' labels')
  | cons l labels ih =>
    rintro (_ | ⟨l', labels'⟩) h
    · exact absurd h (labelChars_ne_nil l labels)
    · rw [labelChars_cons, labelChars_cons] at h
      obtain ⟨rfl, hrest⟩ :=
        Label.chars_append_inj (isGuarded_labelChars labels) (isGuarded_labelChars labels') h
      rw [ih hrest]

lemma chars_ne_root (hn : .text [] ∉ n.labels) (hroot : n ≠ root) : n.chars ≠ root.chars := by
  intro h
  rw [chars_eq_labelChars hroot] at h
  exact hn (by simp [labels_eq_of_labelChars h])

/-- Names without empty labels have the same text form only if they are the same name: label by
label of the same kind, with the same octets, letter case included, and the same number of bits. -/
theorem text_inj (hn : .text [] ∉ n.labels) (hm : .text [] ∉ m.labels) :
    n.text = m.text ↔ n = m := by
  constructor
  · intro h
    have hchars : n.chars = m.chars := String.ofList_injective h
    by_cases hnroot : n = root
    · by_contra hne
      have hmroot : m ≠ root := fun hmroot => hne (hnroot.trans hmroot.symm)
      exact chars_ne_root hm hmroot (by rw [← hchars, hnroot])
    · have hmroot : m ≠ root := by
        rintro rfl
        exact chars_ne_root hn hnroot hchars
      rw [chars_eq_labelChars hnroot, chars_eq_labelChars hmroot] at hchars
      exact congrArg Name.mk (labelChars_injective hchars)
  · rintro rfl
    rfl

/-- A label of text that spells a label of bits is not written like it. -/
theorem text_inj_bracket :
    let n : Name := ⟨[.text [0x5B, 0x78, 0x30, 0x41, 0x2F, 0x38, 0x5D]]⟩
    let m : Name := ⟨[.bits [0x0A] 8]⟩
    .text [] ∉ n.labels ∧ .text [] ∉ m.labels ∧ n.text ≠ m.text := by
  intro n m
  have hn : .text [] ∉ n.labels := by decide
  have hm : .text [] ∉ m.labels := by decide
  exact ⟨hn, hm, (text_inj hn hm).not.mpr (by decide)⟩

end Name

end StubResolver
