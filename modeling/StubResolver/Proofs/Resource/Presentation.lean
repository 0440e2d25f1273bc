import StubResolver.Proofs.Name.Text
import StubResolver.Proofs.Name.Visible
import StubResolver.Proofs.Resource.Mailbox
import StubResolver.Proofs.Text.Words
import StubResolver.Resource.Display
import StubResolver.Resource.Parse

/-!
# Reading the text form of data with names

Data with names are read back from their text form, letter for letter. The fields have no white
space, so that they are split where they were put together, and a mailbox is written as the name
that stands for it, in which no character is left to be internationalised.
-/

namespace StubResolver

/-! ### What can be presented -/

/-- A name that the wire can carry, with no label of text that begins with a bracket. -/
structure Name.IsPresentable (n : Name) : Prop where
  isValid : n.IsValid
  isLegible : n.IsLegible

/-- A mailbox that its name gives back, in a domain that is read back, with a local part that does
not begin with a bracket. -/
structure Mailbox.IsPresentable (m : Mailbox) : Prop where
  domain : m.domain.IsPresentable
  isCanonical : m.IsCanonical
  head?_ne : m.localPart.toList.head? ≠ some '['

/-- Whole seconds, as many as 64 bits hold. -/
structure Duration.IsPresentable (d : Duration) : Prop where
  nanoseconds_eq : d.nanoseconds = .zero
  seconds_le : d.seconds ≤ Resource.maxTime

/-- Data with names, all of which can be presented, and so can the mailbox and the times. -/
def Resource.IsPresentable : Resource → Prop
  | ns n | cname n | mx _ n => n.IsPresentable
  | soa s => s.primary.IsPresentable ∧ s.mailbox.IsPresentable ∧
    ∀ d ∈ [s.refresh, s.retry, s.expire, s.minimum], d.IsPresentable
  | _ => False

/-! ### Mailboxes -/

namespace Mailbox

variable {m : Mailbox}

/-- The octet of an opening bracket comes first for that character only. -/
lemma head?_of_encode {cs : List Char}
    (h : (Utf8.encode cs).head? = some Label.openingBracket) : cs.head? = some '[' := by
  obtain _ | ⟨c, cs⟩ := cs
  · cases h
  have hne : Utf8.encodeChar c ≠ [] := Label.octets_ne_nil (.foreign c)
  rw [Utf8.encode, List.flatMap_cons, List.head?_append_of_ne_nil _ hne] at h
  have hmem : Label.openingBracket ∈ Utf8.encode [c] := by
    rw [Utf8.encode, List.flatMap_singleton]
    exact List.mem_of_head? h
  have hc : '[' = c := List.mem_singleton.mp ((Utf8.mem_encode_iff (c := '[') (by decide)).mp hmem)
  rw [← hc]
  rfl

/-- The name that stands for a mailbox is read back from its text form, if the domain is and the
local part does not begin with a bracket. -/
lemma isLegible_nameForm (hdomain : m.domain.IsLegible)
    (hlocal : m.localPart.toList.head? ≠ some '[') : m.nameForm.IsLegible := by
  intro l hl
  rcases mem_labels_nameForm hl with hl | ⟨rfl, hne⟩
  · exact hdomain l hl
  · exact ⟨hne, mt head?_of_encode hlocal⟩

lemma IsPresentable.nameForm (h : m.IsPresentable) : m.nameForm.IsPresentable where
  isValid := isValid_nameForm h.domain.isValid (length_le_of_isCanonical h.isCanonical)
  isLegible := isLegible_nameForm h.domain.isLegible h.head?_ne

end Mailbox

namespace Resource

variable {fs : List (List Char)} {n : Name} {r : Resource}

/-! ### Fields -/

lemma isNameField_chars (n : Name) : isNameField n.chars = true := by
  have hne : n.chars ≠ [] := by
    obtain ⟨_ | ⟨l, labels⟩⟩ := n
    · simp [Name.chars]
    · exact Name.labelChars_ne_nil l labels
  simp only [isNameField, Bool.and_eq_true, List.all_eq_true, Bool.not_eq_true']
  refine ⟨by simpa using hne, fun c hc => ?_⟩
  exact (Name.isVisible_of_mem_chars hc).isWhiteSpace_eq_false

lemma isNumberField_toChars (n : Nat) : isNumberField (Numeral.toChars n) = true := by
  have hne : Numeral.toChars n ≠ [] := Nat.toDigits_ne_nil
  simp only [isNumberField, Bool.and_eq_true, List.all_eq_true]
  refine ⟨by simpa using hne, fun c hc => ?_⟩
  have hvisible := Text.isVisible_of_mem_toDigits (by decide) (by decide) hc
  rw [Unicode.isDecimalDigit, if_pos (Nat.lt_succ_of_le (hvisible.2.trans (by decide)))]
  exact Numeral.isDigit_of_mem_toChars hc

/-- Fields without a space in them are found where they were put together. -/
lemma fields_intercalate (hne : fs ≠ []) (h : ∀ field ∈ fs, ∀ c ∈ field, Text.IsVisible c) :
    fields ([' '].intercalate fs) = fs := by
  refine Text.splitOn_intercalate hne fun field hfield hspace => ?_
  exact absurd (h field hfield _ hspace) (by decide)

lemma nameField_chars (h : n.IsPresentable) : nameField n.chars = .ok n := by
  have hparse : Name.parse (String.ofList n.chars) = .ok n :=
    Name.parse_text h.isValid.isSized h.isLegible
  rw [nameField, hparse]
  rfl

lemma numberField_toChars {max n : Nat} (h : n ≤ max) :
    numberField max (Numeral.toChars n) = .ok n := by
  rw [numberField, Numeral.ofChars_toChars h]
  rfl

lemma exists_seconds {d : Duration} (h : d.IsPresentable) :
    ∃ seconds ≤ maxTime, d = { seconds } := by
  obtain ⟨seconds, nanoseconds⟩ := d
  obtain ⟨rfl, hle⟩ := h
  exact ⟨seconds, hle, rfl⟩

/-! ### Reading what was written -/

lemma parseMx_text {preference : UInt16} (h : n.IsPresentable) :
    parseMx (mx preference n).text.toList = .ok (mx preference n) := by
  have htext : (mx preference n).text.toList
      = [' '].intercalate [Numeral.toChars preference.toNat, n.chars] := by
    simp [text, Name.text, List.intercalate_cons_cons, Numeral.toChars]
  have hvisible : ∀ field ∈ [Numeral.toChars preference.toNat, n.chars],
      ∀ c ∈ field, Text.IsVisible c := by
    simp only [List.forall_mem_cons]
    exact ⟨fun _ => Text.isVisible_of_mem_toDigits (by decide) (by decide),
      fun _ => Name.isVisible_of_mem_chars, by simp⟩
  rw [htext, parseMx, fields_intercalate (by simp) hvisible]
  have hpreference := numberField_toChars (Nat.le_of_lt_succ preference.toNat_lt)
  simp only [isNumberField_toChars, isNameField_chars, Bool.and_self, if_true, hpreference,
    nameField_chars h, ok_bind, UInt16.ofNat_toNat]
  rfl

lemma parseSoa_text {s : Authority} (h : (soa s).IsPresentable) :
    parseSoa (soa s).text.toList = .ok (soa s) := by
  obtain ⟨primary, mailbox, serial, refresh, retry, expire, minimum⟩ := s
  obtain ⟨hprimary, hmailbox, htimes⟩ := h
  simp only [List.forall_mem_cons] at htimes
  obtain ⟨htime₁, htime₂, htime₃, htime₄, -⟩ := htimes
  obtain ⟨refresh, hrefresh, rfl⟩ := exists_seconds htime₁
  obtain ⟨retry, hretry, rfl⟩ := exists_seconds htime₂
  obtain ⟨expire, hexpire, rfl⟩ := exists_seconds htime₃
  obtain ⟨minimum, hminimum, rfl⟩ := exists_seconds htime₄
  let names := [primary, mailbox.nameForm].map Name.chars
  let numbers := [serial.toNat, refresh, retry, expire, minimum].map Numeral.toChars
  have htext : (soa ⟨primary, mailbox, serial, { seconds := refresh }, { seconds := retry },
      { seconds := expire }, { seconds := minimum }⟩).text.toList
      = [' '].intercalate (names ++ numbers) := by
    simp [names, numbers, text, authorityText, Name.text, Mailbox.nameChars_eq_chars,
      Numeral.toChars]
  have hvisible : ∀ field ∈ names ++ numbers, ∀ c ∈ field, Text.IsVisible c := by
    simp only [names, numbers, List.forall_mem_append, List.forall_mem_map]
    exact ⟨fun _ _ _ => Name.isVisible_of_mem_chars,
      fun _ _ _ => Text.isVisible_of_mem_toDigits (by decide) (by decide)⟩
  have hserial := numberField_toChars (Nat.le_of_lt_succ serial.toNat_lt)
  have hreread : Mailbox.ofName mailbox.nameForm = mailbox :=
    Mailbox.reread_of_isCanonical hmailbox.isCanonical
  rw [htext, parseSoa, fields_intercalate (by simp [names]) hvisible]
  simp only [names, numbers, List.map_cons, List.map_nil, List.cons_append, List.nil_append,
    List.all_cons, List.all_nil, isNumberField_toChars, isNameField_chars, Bool.and_self, if_true,
    nameField_chars hmailbox.nameForm, nameField_chars hprimary, hserial,
    numberField_toChars hrefresh, numberField_toChars hretry, numberField_toChars hexpire,
    numberField_toChars hminimum, ok_bind, except_pure, hreread, UInt32.ofNat_toNat]

/-- Data with names are read back from their text form as they were, letter case included. -/
theorem parse_text_of_isPresentable (h : r.IsPresentable) :
    ∃ type, r.type? = some type ∧ parse type r.text = .ok r := by
  cases r with
  | ns n =>
    refine ⟨.ns, rfl, ?_⟩
    rw [parse, text, Name.text, String.toList_ofList, nameField_chars h]
    rfl
  | cname n =>
    refine ⟨.cname, rfl, ?_⟩
    rw [parse, text, Name.text, String.toList_ofList, nameField_chars h]
    rfl
  | mx preference n =>
    refine ⟨.mx, rfl, ?_⟩
    rw [parse, parseMx_text h]
  | soa s =>
    refine ⟨.soa, rfl, ?_⟩
    rw [parse, parseSoa_text h]
  | a | aaaa | txt | unknown => exact h.elim

/-- A zone whose names have a point, a space, a digit behind an octet beyond ASCII and a label of
bits in them, with a mailbox that is not ASCII. -/
def presentable : Resource :=
  .soa ⟨⟨[.text [0x2E, 0x20, 0xFF, 0x39, 0x5B], .bits [0xA8] 5]⟩, ⟨"ü. ", ⟨[.bits [0xFF] 8]⟩⟩,
    0xFFFFFFFF, { seconds := 0 }, { seconds := 900 }, { seconds := maxTime }, { seconds := 60 }⟩

theorem parse_text_of_isPresentable_zone : presentable.IsPresentable ∧
    ∃ type, presentable.type? = some type ∧ parse type presentable.text = .ok presentable := by
  have htimes : ∀ d ∈ [({ seconds := 0 } : Duration), { seconds := 900 }, { seconds := maxTime },
      { seconds := 60 }], d.IsPresentable := by
    simp only [List.forall_mem_cons]
    exact ⟨⟨rfl, by decide⟩, ⟨rfl, by decide⟩, ⟨rfl, by decide⟩, ⟨rfl, by decide⟩, by simp⟩
  have h : presentable.IsPresentable :=
    ⟨⟨by decide, by decide⟩, ⟨⟨by decide, by decide⟩, by decide, by decide⟩, htimes⟩
  exact ⟨h, parse_text_of_isPresentable h⟩

end Resource

end StubResolver
