import StubResolver.Proofs.Name.Parse
import StubResolver.Proofs.Name.Wire

/-!
# Reading the text form of names

A name is read back from its text form, letter for letter, if no label of text in it is empty or
begins with an opening bracket. A bracket at the beginning of a label is written behind a backslash,
which is also how a label of bits begins, and then reading fails.
-/

namespace StubResolver

namespace Label

variable {toAscii : Idna.Converter} {rest : List Char} {done : List Item} {b : UInt8}
  {octets : Octets} {l : Label}

/-! ### Octets -/

lemma isPlain_of_isDigit {c : Char} (h : c.isDigit = true) : isPlain c = true := by
  simp [isPlain, Char.isAlphanum, h]

lemma toNat_ofNat_octet (b : UInt8) : (Char.ofNat b.toNat).toNat = b.toNat :=
  Utf8.toNat_ofNat_of_isValidChar (.inl (Nat.lt_trans b.toNat_lt (by decide)))

/-- An octet is written in one of three ways: as it is, behind a backslash, or in digits. -/
lemma octetText_cases (b : UInt8) :
    (isPlain (Char.ofNat b.toNat) = true ∧ octetText b = [Char.ofNat b.toNat]) ∨
      (isPlain (Char.ofNat b.toNat) = false ∧ b.toNat < 0x80 ∧
        octetText b = ['\\', Char.ofNat b.toNat]) ∨
      octetText b = '\\' :: Numeral.threeDigits b.toNat := by
  unfold octetText
  dsimp only
  split_ifs with hplain hvisible
  · exact .inl ⟨hplain, rfl⟩
  · have : b.toNat ≤ 0x7E := UInt8.le_iff_toNat_le.mp hvisible.2
    exact .inr (.inl ⟨by simpa using hplain, by omega, rfl⟩)
  · exact .inr (.inr rfl)

/-- The text form of an octet writes it. -/
lemma isWritten_octetText (b : UInt8) : Item.IsWritten (octetText b) (.octet b) := by
  rcases octetText_cases b with ⟨hplain, htext⟩ | ⟨hplain, hascii, htext⟩ | htext
  · have h := Item.IsWritten.plain hplain
    rwa [toNat_ofNat_octet, UInt8.ofNat_toNat, ← htext] at h
  · have hdigit : (Char.ofNat b.toNat).isDigit = false := by
      by_contra hdigit
      rw [isPlain_of_isDigit (by simpa using hdigit)] at hplain
      cases hplain
    have h := Item.IsWritten.escaped hdigit (by rwa [toNat_ofNat_octet])
    rwa [toNat_ofNat_octet, UInt8.ofNat_toNat, ← htext] at h
  · have hb := b.toNat_lt
    have hdigit {d : Nat} (hd : d < 10) :=
      Numeral.digit?_eq_some_iff.mp (Numeral.digit?_digitChar hd)
    obtain ⟨hd, hdvalue⟩ := hdigit (d := b.toNat / 100 % 10) (by omega)
    obtain ⟨he, hevalue⟩ := hdigit (d := b.toNat / 10 % 10) (by omega)
    obtain ⟨hf, hfvalue⟩ := hdigit (d := b.toNat % 10) (by omega)
    have hvalue : Numeral.value (Numeral.threeDigits b.toNat) = b.toNat := by
      rw [Numeral.threeDigits, Numeral.value_three, hdvalue, hevalue, hfvalue]
      omega
    have h := Item.IsWritten.decimal (by simp [hd, he, hf]) (hvalue.trans_le (by omega))
    rw [← Numeral.threeDigits, hvalue, UInt8.ofNat_toNat] at h
    rwa [htext]

lemma itemsWritten_flatMap_octetText (octets : Octets) :
    ItemsWritten (octets.flatMap octetText) (octets.map .octet) := by
  induction octets with
  | nil => exact .nil
  | cons b octets ih => exact .cons (isWritten_octetText b) ih

lemma itemsOnto_flatMap_octetText :
    itemsOnto done (octets.flatMap octetText ++ '.' :: rest)
      = .ok (done.reverse ++ octets.map .octet, rest) :=
  itemsOnto_eq_ok_iff.mpr ⟨_, _, itemsWritten_flatMap_octetText octets, rfl, .inr rfl⟩

/-! ### Labels -/

/-- The octet of the opening bracket. -/
def openingBracket : UInt8 := 0x5B

/-- A label that is read back from its text form. A label of text is not empty and does not begin
with an opening bracket, which a backslash turns into the beginning of a label of bits. -/
def IsLegible : Label → Prop
  | text octets => octets ≠ [] ∧ octets.head? ≠ some openingBracket
  | bits _ _ => True

instance : DecidablePred IsLegible
  | text octets => inferInstanceAs (Decidable (octets ≠ [] ∧ octets.head? ≠ some openingBracket))
  | bits _ _ => .isTrue trivial

/-- Only the text form of an opening bracket begins like a label of bits. -/
lemma startsWithText_octetText (hb : b ≠ openingBracket) :
    StartsWithText (octetText b ++ rest) := by
  rintro ⟨body, h⟩
  rcases octetText_cases b with ⟨hplain, htext⟩ | ⟨-, -, htext⟩ | htext
  · rw [htext] at h
    have hc : '\\' = Char.ofNat b.toNat := (List.cons.inj h).1
    rw [← hc] at hplain
    cases hplain
  · rw [htext] at h
    have hc : '[' = Char.ofNat b.toNat := (List.cons.inj (List.cons.inj h).2).1
    apply hb
    rw [← UInt8.toNat_inj, ← toNat_ofNat_octet, ← hc]
    rfl
  · rw [htext] at h
    have hc : '[' = Nat.digitChar (b.toNat / 100 % 10) := (List.cons.inj (List.cons.inj h).2).1
    have := Numeral.digit?_digitChar (d := b.toNat / 100 % 10) (by omega)
    rw [← hc] at this
    cases this

lemma notMem_flatMap_upperOctet {a : Char} (octets : Octets) (ha : Hex.isDigit a = false) :
    a ∉ octets.flatMap Hex.upperOctet :=
  notMem_of_writes (Hex.writes_flatMap_upperOctet octets) ha

/-- The text form of a legible label writes it. -/
lemma isWritten_chars (hsized : l.IsSized) (h : l.IsLegible) : IsWritten toAscii l.chars l := by
  cases l with
  | text octets =>
    obtain ⟨hne, hhead⟩ := h
    have hoctets : (octets.map Item.octet).flatMap Item.octets = octets := by
      simp [List.flatMap_map, Item.octets]
    have hstart : StartsWithText (octets.flatMap octetText) := by
      obtain ⟨b, octets, rfl⟩ := List.exists_cons_of_ne_nil hne
      exact startsWithText_octetText (by simpa using hhead)
    have hplain : ∀ item ∈ octets.map Item.octet, item.isForeign = false := by
      simp [Item.isForeign]
    have hwritten : IsWritten toAscii (octets.flatMap octetText)
        (.text ((octets.map Item.octet).flatMap Item.octets)) :=
      .verbatim hstart (itemsWritten_flatMap_octetText octets) (by simpa using hne) hplain
        (by rwa [hoctets])
    rwa [hoctets] at hwritten
  | bits octets count =>
    obtain ⟨hpos, hmax, hlen⟩ := hsized
    have hwritten : IsWritten toAscii _ (.bits octets count) :=
      .bits (.counted (.inl rfl) (Hex.writes_flatMap_upperOctet octets)
        (Numeral.writes_toChars count) hpos hmax hlen)
    simpa [chars] using hwritten

lemma read_chars (hsized : l.IsSized) (h : l.IsLegible) :
    read toAscii (l.chars ++ '.' :: rest) = .ok (l, rest) :=
  read_eq_ok_iff_isWritten.mpr ⟨_, isWritten_chars hsized h, .inr rfl⟩

lemma eq_of_chars_eq_nil (h : l.chars = []) : l = .text [] := by
  cases l with
  | text octets =>
    obtain _ | ⟨b, octets⟩ := octets
    · rfl
    · have hb := List.flatMap_eq_nil_iff.mp h b List.mem_cons_self
      rcases octetText_cases b with ⟨-, htext⟩ | ⟨-, -, htext⟩ | htext <;>
        exact absurd (htext.symm.trans hb) (List.cons_ne_nil _ _)
  | bits octets count => cases h

/-! ### Labels that are not read back -/

/-- Up to the first backslash there are only plain characters and points. The text forms of labels
are of this kind, so that no bracket is closed in them before a backslash. -/
def IsGuarded : List Char → Prop
  | [] => True
  | c :: cs => c = '\\' ∨ ((isPlain c = true ∨ c = '.') ∧ IsGuarded cs)

lemma IsGuarded.append {cs cs' : List Char} (h : IsGuarded cs) (h' : IsGuarded cs') :
    IsGuarded (cs ++ cs') := by
  induction cs with
  | nil => exact h'
  | cons c cs ih => exact h.imp_right (And.imp_right ih)

lemma IsGuarded.of_append {cs cs' : List Char} (h : IsGuarded (cs ++ cs')) : IsGuarded cs := by
  induction cs with
  | nil => trivial
  | cons c cs ih => exact h.imp_right (And.imp_right ih)

lemma IsGuarded.flatMap {α : Type} {xs : List α} {f : α → List Char}
    (h : ∀ x ∈ xs, IsGuarded (f x)) : IsGuarded (xs.flatMap f) := by
  induction xs with
  | nil => trivial
  | cons x xs ih =>
    obtain ⟨hx, hxs⟩ := List.forall_mem_cons.mp h
    exact hx.append (ih hxs)

/-- Whatever is neither plain nor a point occurs behind a backslash only. -/
lemma IsGuarded.mem_takeWhile {cs : List Char} {a : Char} (h : IsGuarded cs)
    (ha : ¬ (isPlain a = true ∨ a = '.')) (hslash : a ≠ '\\') (hmem : a ∈ cs ∨ '\\' ∈ cs) :
    '\\' ∈ cs.takeWhile (· ≠ a) := by
  -- As long as no backslash comes, the characters are not `a` and are taken.
  induction cs with
  | nil => simp at hmem
  | cons c cs ih =>
    rcases h with rfl | ⟨hc, h⟩
    · simp [hslash.symm]
    · have hca : c ≠ a := by
        rintro rfl
        exact ha hc
      rw [List.takeWhile_cons_of_pos (by simpa using hca)]
      by_cases hc' : '\\' = c
      · exact hc' ▸ List.mem_cons_self
      · refine List.mem_cons_of_mem c (ih h ?_)
        simpa [hca.symm, hc'] using hmem

lemma isGuarded_octetText (b : UInt8) : IsGuarded (octetText b) := by
  rcases octetText_cases b with ⟨hplain, htext⟩ | ⟨-, -, htext⟩ | htext
  · rw [htext]
    exact .inr ⟨.inl hplain, trivial⟩
  · rw [htext]
    exact .inl rfl
  · rw [htext]
    exact .inl rfl

lemma isGuarded_chars (l : Label) : IsGuarded l.chars := by
  cases l with
  | text octets => exact .flatMap fun b _ => isGuarded_octetText b
  | bits octets count => exact .inl rfl

/-- The body of a bracket that a backslash stands in is refused. -/
lemma IsGuarded.ofBitsBody_error {body : List Char} (h : IsGuarded body) (hmem : '\\' ∈ body) :
    ∃ fault, ofBitsBody body = .error fault := by
  obtain _ | ⟨x, body⟩ := body
  · exact ⟨_, rfl⟩
  unfold ofBitsBody
  dsimp only
  split_ifs with hx
  · exact ⟨_, rfl⟩
  have hslash : '\\' ≠ x := by
    rintro rfl
    exact hx (by decide)
  have hdigits : '\\' ∈ body.takeWhile (· ≠ '/') := by
    refine (h.resolve_left hslash.symm).2.mem_takeWhile (by decide) (by decide) (.inr ?_)
    simpa [hslash] using hmem
  split
  · exact ⟨_, rfl⟩
  next octets hoctets => exact absurd (Hex.isDigit_of_octets? hoctets _ hdigits) (by decide)

/-- A bracket is closed behind a backslash or not at all. -/
lemma IsGuarded.readBits_error {cs : List Char} (h : IsGuarded cs) :
    ∃ fault, readBits cs = .error fault := by
  unfold readBits
  split
  · exact ⟨_, rfl⟩
  next c rest hrest =>
    have hclosed : ']' ∈ cs := by
      by_contra hnone
      rw [List.dropWhile_eq_nil_iff.mpr] at hrest
      · cases hrest
      · intro c hc
        simpa using ne_of_mem_of_not_mem hc hnone
    have hbody : IsGuarded (cs.takeWhile (· ≠ ']')) := by
      rw [← List.takeWhile_append_dropWhile (p := (· ≠ ']')) (l := cs)] at h
      exact h.of_append
    obtain ⟨fault, hfault⟩ :=
      hbody.ofBitsBody_error (h.mem_takeWhile (by decide) (by decide) (.inl hclosed))
    rw [hfault]
    exact ⟨fault, rfl⟩

/-- A label that is not legible is not read where its text form stands. -/
lemma read_chars_error (hl : ¬ l.IsLegible) (hrest : IsGuarded rest) :
    ∃ fault, read toAscii (l.chars ++ '.' :: rest) = .error fault := by
  obtain octets | ⟨octets, count⟩ := l
  · obtain _ | ⟨b, octets⟩ := octets
    · exact ⟨.emptyLabel, rfl⟩
    · have hb : b = openingBracket := by simpa [IsLegible] using hl
      subst hb
      have hguarded : IsGuarded (octets.flatMap octetText ++ '.' :: rest) :=
        (IsGuarded.flatMap fun b _ => isGuarded_octetText b).append (.inr ⟨.inr rfl, hrest⟩)
      exact hguarded.readBits_error
  · exact absurd trivial hl

end Label

/-! ### Names -/

namespace Name

variable {toAscii : Idna.Converter} {done labels : List Label} {n : Name}

/-- A name whose labels are read back from their text forms. -/
def IsLegible (n : Name) : Prop := ∀ l ∈ n.labels, l.IsLegible

instance : DecidablePred IsLegible := fun n => by unfold IsLegible; infer_instance

/-- The text forms of labels, each with a point behind it. -/
def labelChars (labels : List Label) : List Char := labels.flatMap fun l => l.chars ++ ['.']

lemma labelChars_cons (l : Label) (labels : List Label) :
    labelChars (l :: labels) = l.chars ++ '.' :: labelChars labels := by
  simp [labelChars]

lemma isGuarded_labelChars (labels : List Label) : Label.IsGuarded (labelChars labels) :=
  .flatMap fun l _ => l.isGuarded_chars.append (.inr ⟨.inr rfl, trivial⟩)

lemma labelChars_ne_nil (l : Label) (labels : List Label) : labelChars (l :: labels) ≠ [] := by
  simp [labelChars_cons]

lemma read_labelChars {l : Label} (hsized : l.IsSized) (hl : l.IsLegible) :
    Label.read toAscii (labelChars (l :: labels)) = .ok (l, labelChars labels) := by
  rw [labelChars_cons]
  exact Label.read_chars hsized hl

lemma read_labelChars_error {l : Label} (hl : ¬ l.IsLegible) :
    ∃ fault, Label.read toAscii (labelChars (l :: labels)) = .error fault := by
  rw [labelChars_cons]
  exact Label.read_chars_error hl (isGuarded_labelChars labels)

lemma labelsOnto_labelChars (hsized : ∀ l ∈ labels, l.IsSized) (h : ∀ l ∈ labels, l.IsLegible) :
    labelsOnto toAscii done (labelChars labels) = .ok (done.reverse ++ labels) := by
  induction labels generalizing done with
  | nil => simp [labelChars, labelsOnto]
  | cons l labels ih =>
    obtain ⟨hlsized, hsized⟩ := List.forall_mem_cons.mp hsized
    obtain ⟨hl, h⟩ := List.forall_mem_cons.mp h
    rw [labelsOnto_of_read (labelChars_ne_nil l labels) (read_labelChars hlsized hl), ih hsized h]
    simp

lemma labelsOnto_labelChars_error (hsized : ∀ l ∈ labels, l.IsSized)
    (h : ¬ ∀ l ∈ labels, l.IsLegible) :
    ∃ fault, labelsOnto toAscii done (labelChars labels) = .error fault := by
  -- The labels in front of the first one that is not legible are read.
  induction labels generalizing done with
  | nil => simp at h
  | cons l labels ih =>
    obtain ⟨hlsized, hsized⟩ := List.forall_mem_cons.mp hsized
    by_cases hl : l.IsLegible
    · rw [labelsOnto_of_read (labelChars_ne_nil l labels) (read_labelChars hlsized hl)]
      exact ih hsized fun hlabels => h (List.forall_mem_cons.mpr ⟨hl, hlabels⟩)
    · obtain ⟨fault, hfault⟩ := read_labelChars_error hl
      exact ⟨fault, labelsOnto_of_read_error (labelChars_ne_nil l labels) hfault⟩

/-! ### Reading the text form of a name -/

lemma chars_eq_labelChars (h : n ≠ root) : n.chars = labelChars n.labels := by
  obtain ⟨_ | ⟨l, labels⟩⟩ := n
  · exact absurd rfl h
  · rfl

/-- A lone point is written for no labels but a single empty one. -/
lemma labels_eq_of_labelChars (h : labelChars labels = ['.']) : labels = [.text []] := by
  obtain _ | ⟨l, labels⟩ := labels
  · cases h
  have hlen : l.chars.length + ((labelChars labels).length + 1) = 1 := by
    simpa [labelChars_cons] using congrArg List.length h
  have hl : l = .text [] := Label.eq_of_chars_eq_nil (List.length_eq_zero_iff.mp (by omega))
  have hlabels : labelChars labels = [] := List.length_eq_zero_iff.mp (by omega)
  obtain _ | ⟨l', labels⟩ := labels
  · rw [hl]
  · exact absurd hlabels (labelChars_ne_nil l' labels)

lemma parse_text (hsized : n.IsSized) (h : n.IsLegible) : Name.parse n.text = .ok n := by
  rw [parse_eq_ok_iff, text, String.toList_ofList]
  by_cases hroot : n = root
  · exact .inl ⟨by rw [hroot]; rfl, hroot⟩
  · refine .inr ⟨?_, ?_⟩
    · intro hpoint
      rw [chars_eq_labelChars hroot] at hpoint
      exact absurd h (by simp [IsLegible, labels_eq_of_labelChars hpoint, Label.IsLegible])
    · rw [chars_eq_labelChars hroot, labelsOnto_labelChars hsized h]
      rfl

/-- The text form of a name that is not legible is refused, or it is the point that a single empty
label is written as. -/
lemma parse_text_of_not_isLegible (hsized : n.IsSized) (h : ¬ n.IsLegible) :
    (∃ e, Name.parse n.text = .error e) ∨ n = ⟨[.text []]⟩ := by
  have hroot : n ≠ root := by
    rintro rfl
    exact h (by simp [IsLegible, root])
  by_cases hpoint : n.chars = ['.']
  · rw [chars_eq_labelChars hroot] at hpoint
    exact .inr (congrArg Name.mk (labels_eq_of_labelChars hpoint))
  · obtain ⟨fault, hfault⟩ : ∃ fault,
        labelsOnto Idna.toAscii [] (labelChars n.labels) = .error fault :=
      labelsOnto_labelChars_error hsized h
    refine .inl ⟨.format (.name n.text fault), ?_⟩
    rw [Name.parse, text, String.toList_ofList, ofChars, if_neg hpoint, chars_eq_labelChars hroot,
      hfault]
    rfl

/-- Whatever the wire or a text gives as a name is read back from its text form exactly if it is
legible, and the letters then keep their case. -/
theorem parse_text_iff_isLegible
    (h : (∃ p i j, decoder p i = .ok (n, j)) ∨ ∃ s, Name.parse s = .ok n) :
    ((∃ m, Name.parse n.text = .ok m ∧ m.same n = true) ↔ n.IsLegible) ∧
      (n.IsLegible → Name.parse n.text = .ok n) := by
  have hsized : n.IsSized := by
    rcases h with ⟨p, i, j, hread⟩ | ⟨s, hparse⟩
    · exact (yields_decoder p i n j hread).isSized
    · exact isSized_of_parse hparse
  refine ⟨⟨?_, fun hlegible => ⟨n, parse_text hsized hlegible, ?_⟩⟩, parse_text hsized⟩
  · rintro ⟨m, hparse, hsame⟩
    by_contra hlegible
    rcases parse_text_of_not_isLegible hsized hlegible with ⟨e, herror⟩ | rfl
    · rw [herror] at hparse
      cases hparse
    · have hm : m = root := by
        rcases parse_eq_ok_iff.mp hparse with ⟨-, hm⟩ | ⟨hne, -⟩
        · exact hm
        · exact absurd rfl hne
      rw [hm] at hsame
      cases hsame
  · simp [same]

/-- A label with a bracket, a point, a backslash, a space, a digit and an octet beyond ASCII is read
back, and so are five bits. -/
theorem parse_text_iff_isLegible_mixture :
    let p : Packet := #[7, 0x61, 0x5B, 0x2E, 0x5C, 0x20, 0x39, 0xFF, 0x41, 5, 0xA8, 0]
    let n : Name := ⟨[.text [0x61, 0x5B, 0x2E, 0x5C, 0x20, 0x39, 0xFF], .bits [0xA8] 5]⟩
    decoder p 0 = .ok (n, 12) ∧ n.IsLegible ∧ Name.parse n.text = .ok n := by
  intro p n
  have hread : decoder p 0 = .ok (n, 12) :=
    reads_encode (n := n) (by decide) p 0 (Packet.holds_toArray n.encode)
  have hlegible : n.IsLegible := by decide
  exact ⟨hread, hlegible, (parse_text_iff_isLegible (.inl ⟨p, 0, 12, hread⟩)).2 hlegible⟩

/-- The text form of a label that is an opening bracket is read as the beginning of a label of
bits. -/
theorem parse_text_of_openingBracket :
    let n : Name := ⟨[.text [0x5B]]⟩
    decoder #[1, 0x5B, 0] 0 = .ok (n, 3) ∧ n.chars = ['\\', '[', '.'] ∧
      Name.parse n.text = .error (.format (.name n.text .openBits)) := by
  intro n
  have hread : Label.read Idna.toAscii n.chars = .error .openBits := rfl
  have hlabels : labelsOnto Idna.toAscii [] n.chars = .error .openBits :=
    labelsOnto_of_read_error (by decide) hread
  refine ⟨reads_encode (n := n) (by decide) _ 0 (Packet.holds_toArray n.encode), rfl, ?_⟩
  rw [Name.parse, text, String.toList_ofList, ofChars, if_neg (by decide), hlabels]
  rfl

end Name

end StubResolver
