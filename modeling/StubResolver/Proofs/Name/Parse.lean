import StubResolver.Proofs.Idna.Empty
import StubResolver.Proofs.Name.Grammar

/-!
# Labels from text

Whatever a text writes as a label fits the wire, except for one thing. The ASCII form of a label can
be empty, since the mapping drops characters, and then the label is too.
-/

namespace StubResolver

namespace Label

variable {toAscii : Idna.Converter} {cs rest : List Char} {l : Label} {items : List Item}

/-- A label of text that is not too long, or a label of bits that fits the wire. -/
def IsSized : Label → Prop
  | text octets => octets.length ≤ maxLength
  | bits octets count => (bits octets count).IsValid

lemma isSized_iff : l.IsSized ↔ l.IsValid ∨ l = .text [] := by
  cases l with
  | text octets =>
    simp only [IsSized, IsValid, text.injEq, ← List.length_eq_zero_iff]
    omega
  | bits octets count => simp [IsSized]

lemma IsValid.isSized (h : l.IsValid) : l.IsSized := isSized_iff.mpr (.inl h)

/-! ### Labels of bits -/

lemma isValid_of_readBits (h : readBits cs = .ok (l, rest)) : l.IsValid := by
  obtain ⟨body, hbody, -⟩ := readBits_eq_ok_iff.mp h
  exact hbody.isValid

/-! ### Labels of text -/

lemma octets_ne_nil (item : Item) : item.octets ≠ [] := by
  cases item with
  | octet b => simp [Item.octets]
  | foreign c =>
    unfold Item.octets Utf8.encodeChar
    dsimp only
    split_ifs <;> simp

lemma isSized_of_ofItems (h : ofItems toAscii items = .ok l) : l.IsSized := by
  rcases ofItems_eq_ok_iff.mp h with
    ⟨-, -, hlen, rfl⟩ | ⟨-, written, ascii, -, -, -, hlen, rfl⟩ <;> exact hlen

/-- Items write an empty label exactly if they hold a foreign character and encode a text with the
empty ASCII form. -/
lemma ofItems_eq_empty_iff :
    ofItems toAscii items = .ok (.text []) ↔ items.any Item.isForeign = true ∧
      ∃ written, Utf8.decode? (items.flatMap Item.octets) = .ok written ∧
        toAscii written = .ok [] := by
  rw [ofItems_eq_ok_iff]
  simp only [text.injEq, Utf8.decode?_eq_ok_iff, List.any_eq_true]
  constructor
  · rintro (⟨hne, -, -, hoctets⟩ | ⟨hforeign, written, ascii, hwritten, hascii, -, -, hoctets⟩)
    · -- Without a foreign character each item is an octet of the label.
      obtain ⟨item, hitem⟩ := List.exists_mem_of_ne_nil items hne
      exact absurd (List.flatMap_eq_nil_iff.mp hoctets.symm item hitem) (octets_ne_nil item)
    · have hnil : ascii = [] := by
        rw [← Utf8.decodeLossy_encode ascii, ← hoctets]
        rfl
      exact ⟨hforeign, written, hwritten, hnil ▸ hascii⟩
  · rintro ⟨hforeign, written, hwritten, hascii⟩
    exact .inr ⟨hforeign, written, [], hwritten, hascii, by simp, by simp [Utf8.encode], rfl⟩

/-! ### Reading -/

lemma isSized_of_read (h : read toAscii cs = .ok (l, rest)) : l.IsSized := by
  rcases read_eq_ok_iff.mp h with ⟨body, -, hbits⟩ | ⟨-, items, -, hlabel⟩
  · exact (isValid_of_readBits hbits).isSized
  · exact isSized_of_ofItems hlabel

/-- The first label of a text vanishes: it has a foreign character, and the mapping leaves nothing
of the text that it encodes. -/
def Vanishes (cs : List Char) : Prop :=
  StartsWithText cs ∧ ∃ items rest written, itemsOnto [] cs = .ok (items, rest) ∧
    items.any Item.isForeign = true ∧ Utf8.decode? (items.flatMap Item.octets) = .ok written ∧
    Idna.IsInvisible written

/-- An empty label is read exactly where a label vanishes. -/
lemma read_eq_empty_iff :
    (∃ rest, read Idna.toAscii cs = .ok (.text [], rest)) ↔ Vanishes cs := by
  simp only [read_eq_ok_iff, ofItems_eq_empty_iff, Idna.toAscii_eq_nil_iff]
  constructor
  · rintro ⟨rest, ⟨body, -, hbits⟩ | ⟨htext, items, hitems, hforeign, written, hwritten, hnil⟩⟩
    · exact absurd (isValid_of_readBits hbits) (by decide)
    · exact ⟨htext, items, rest, written, hitems, hforeign, hwritten, hnil⟩
  · rintro ⟨htext, items, rest, written, hitems, hforeign, hwritten, hnil⟩
    exact ⟨rest, .inr ⟨htext, items, hitems, hforeign, written, hwritten, hnil⟩⟩

end Label

/-! ### Names -/

namespace Name

variable {cs : List Char} {done labels : List Label} {n : Name} {s : String}

/-- A name whose labels are sized. -/
def IsSized (n : Name) : Prop := ∀ l ∈ n.labels, l.IsSized

lemma IsValid.isSized (h : n.IsValid) : n.IsSized := fun l hl => (h l hl).isSized

/-- A sized name fits the wire exactly if no label is empty. -/
lemma IsSized.isValid_iff (h : n.IsSized) : n.IsValid ↔ .text [] ∉ n.labels := by
  constructor
  · intro hvalid hempty
    exact absurd (hvalid _ hempty) (by decide)
  · intro hempty l hl
    refine (Label.isSized_iff.mp (h l hl)).resolve_right ?_
    rintro rfl
    exact hempty hl

/-- A label of a text vanishes, be it the first one or a later one. -/
inductive HasVanishing : List Char → Prop where
  | first {cs : List Char} (h : Label.Vanishes cs) : HasVanishing cs
  | later {cs rest : List Char} {l : Label} (h : Label.read Idna.toAscii cs = .ok (l, rest))
    (hrest : HasVanishing rest) : HasVanishing cs

lemma hasVanishing_iff_of_read {l : Label} {rest : List Char}
    (h : Label.read Idna.toAscii cs = .ok (l, rest)) :
    HasVanishing cs ↔ l = .text [] ∨ HasVanishing rest := by
  constructor
  · rintro (hfirst | ⟨hread, hrest⟩)
    · obtain ⟨rest', hread⟩ := Label.read_eq_empty_iff.mpr hfirst
      rw [h] at hread
      exact .inl (Prod.mk.inj (Except.ok.inj hread)).1
    · rw [h] at hread
      cases hread
      exact .inr hrest
  · rintro (rfl | hrest)
    · exact .first (Label.read_eq_empty_iff.mp ⟨rest, h⟩)
    · exact .later h hrest

lemma not_hasVanishing_of_read {fault : NameFault}
    (h : Label.read Idna.toAscii cs = .error fault) : ¬ HasVanishing cs := by
  rintro (hfirst | ⟨hread, -⟩)
  · obtain ⟨rest, hread⟩ := Label.read_eq_empty_iff.mpr hfirst
    rw [h] at hread
    cases hread
  · rw [h] at hread
    cases hread

lemma isSized_of_labelsOnto {toAscii : Idna.Converter} (hdone : ∀ l ∈ done, l.IsSized)
    (h : labelsOnto toAscii done cs = .ok labels) : ∀ l ∈ labels, l.IsSized := by
  fun_induction labelsOnto toAscii done cs with
  | case1 => cases h; simpa using hdone
  | case2 => cases h
  | case3 done cs hcs l rest hread _ ih =>
    exact ih (List.forall_mem_cons.mpr ⟨Label.isSized_of_read hread, hdone⟩) h

/-- Labels that are read behind others hold an empty one exactly if the others do or a label
vanishes. -/
lemma mem_empty_of_labelsOnto (h : labelsOnto Idna.toAscii done cs = .ok labels) :
    .text [] ∈ labels ↔ .text [] ∈ done ∨ HasVanishing cs := by
  -- A label that is read moves from the text to `done`, which the statement covers as well.
  fun_induction labelsOnto Idna.toAscii done cs with
  | case1 =>
    cases h
    have hread : Label.read Idna.toAscii [] = .error .emptyLabel := rfl
    simp [not_hasVanishing_of_read hread]
  | case2 => cases h
  | case3 done cs hcs l rest hread _ ih =>
    rw [ih h, hasVanishing_iff_of_read hread, List.mem_cons, or_assoc, or_left_comm,
      eq_comm (a := l)]

lemma parse_eq_ok_iff :
    Name.parse s = .ok n ↔ (s.toList = ['.'] ∧ n = root) ∨
      (s.toList ≠ ['.'] ∧ labelsOnto Idna.toAscii [] s.toList = .ok n.labels) := by
  obtain ⟨labels⟩ := n
  unfold Name.parse ofChars
  split_ifs with hroot
  · simp [hroot, eq_comm]
  · cases labelsOnto Idna.toAscii [] s.toList <;> simp [hroot, Except.map]

/-- A text that is no name is reported as malformed. -/
lemma exists_fault_of_parse {e : Error} (h : Name.parse s = .error e) :
    ∃ fault, e = .format fault := by
  unfold Name.parse at h
  split at h
  · cases h
  · cases h
    exact ⟨_, rfl⟩

lemma isSized_of_parse (h : Name.parse s = .ok n) : n.IsSized := by
  rcases parse_eq_ok_iff.mp h with ⟨-, rfl⟩ | ⟨-, hlabels⟩
  · simp [IsSized, root]
  · exact isSized_of_labelsOnto (by simp) hlabels

/-- The name that a text writes fits the wire exactly if no label of the text vanishes. -/
theorem isValid_iff_of_parse (h : Name.parse s = .ok n) :
    n.IsValid ↔ ¬ HasVanishing s.toList := by
  rw [(isSized_of_parse h).isValid_iff]
  rcases parse_eq_ok_iff.mp h with ⟨hroot, rfl⟩ | ⟨-, hlabels⟩
  · have hread : Label.read Idna.toAscii ['.'] = .error .emptyLabel := rfl
    simp [hroot, root, not_hasVanishing_of_read hread]
  · simp [mem_empty_of_labelsOnto hlabels]

end Name

end StubResolver
