import StubResolver.Proofs.Name.LetterCase
import StubResolver.Proofs.Name.Parse
import StubResolver.Proofs.Name.Wire
import StubResolver.Proofs.Resource.Mailbox

/-!
# Names that can be reached

Names come from texts and from the wire, and are made from others by the operations on names and
mailboxes. All their labels fit the wire, except that a text with a label of which the mapping
leaves nothing gives an empty label. A name is read back from its encoding exactly if all its labels
fit the wire.
-/

namespace StubResolver

/-! ### Letters in another case -/

namespace Label

variable {l l' : Label}

lemma isValid_fold_iff : l.fold.IsValid ↔ l.IsValid := by
  cases l <;> simp [fold, IsValid]

lemma fold_eq_empty_iff : l.fold = .text [] ↔ l = .text [] := by
  cases l <;> simp [fold]

end Label

namespace Name

/-! ### The labels that operations make -/

variable {n m suffix : Name} {l : Label} {labels : List Label}

lemma mem_labels_of_parent? (h : n.parent? = some m) (hl : l ∈ m.labels) : l ∈ n.labels := by
  obtain ⟨_ | ⟨first, labels⟩⟩ := n
  · cases h
  · cases h
    exact List.mem_cons_of_mem first hl

lemma mem_labels_join : l ∈ (n.join suffix).labels ↔ l ∈ n.labels ∨ l ∈ suffix.labels :=
  List.mem_append

/-- A label whose letters change their case comes from a label of the same length. -/
lemma exists_of_mem_labels_recase {bits : Nat → Bool} (hl : l ∈ (n.recase bits).labels) :
    ∃ l' ∈ n.labels, l'.fold = l.fold := by
  have hmem : l.fold ∈ (n.recase bits).fold.labels := List.mem_map_of_mem hl
  rw [fold_recase] at hmem
  exact List.mem_map.mp hmem

/-- The name of a mailbox has the labels of the domain, and perhaps one that fits the wire. -/
lemma mem_labels_toName {mailbox : Mailbox} (h : mailbox.toName = .ok n) (hl : l ∈ n.labels) :
    l ∈ mailbox.domain.labels ∨ l.IsValid := by
  rw [Mailbox.toName_eq_ite] at h
  split_ifs at h with hlen
  cases h
  refine (Mailbox.mem_labels_nameForm hl).imp_right ?_
  rintro ⟨rfl, hne⟩
  exact ⟨List.length_pos_iff.mpr hne, Nat.not_lt.mp hlen⟩

/-! ### Reachable names -/

/-- The names that can be reached from certain texts, from the wire and from the root, by the
operations on names and mailboxes. -/
inductive Reachable (texts : String → Prop) : Name → Prop where
  | parse {s : String} {n : Name} (hs : texts s) (h : Name.parse s = .ok n) : Reachable texts n
  | decode {p : Packet} {n : Name} {i j : Nat} (h : decoder p i = .ok (n, j)) : Reachable texts n
  | root : Reachable texts root
  | parent {n m : Name} (hn : Reachable texts n) (h : n.parent? = some m) : Reachable texts m
  | join {n suffix : Name} (hn : Reachable texts n) (hsuffix : Reachable texts suffix) :
    Reachable texts (n.join suffix)
  | recase {n : Name} (bits : Nat → Bool) (hn : Reachable texts n) : Reachable texts (n.recase bits)
  | domain {n : Name} (hn : Reachable texts n) : Reachable texts (Mailbox.ofName n).domain
  | mailbox {mailbox : Mailbox} {n : Name} (hdomain : Reachable texts mailbox.domain)
    (h : mailbox.toName = .ok n) : Reachable texts n

variable {texts : String → Prop}

/-- Every label of a reachable name fits the wire, or it is empty and a label of a text vanishes. -/
lemma Reachable.isValid_or (h : Reachable texts n) :
    ∀ l ∈ n.labels, l.IsValid ∨ l = .text [] ∧ ∃ s, texts s ∧ HasVanishing s.toList := by
  -- Only a text brings in an empty label; the operations hand on those that are there.
  induction h with
  | parse hs h =>
    intro l hl
    refine (Label.isSized_iff.mp (isSized_of_parse h l hl)).imp_right ?_
    rintro rfl
    refine ⟨rfl, _, hs, ?_⟩
    by_contra hnone
    exact (isSized_of_parse h).isValid_iff.mp ((isValid_iff_of_parse h).mpr hnone) hl
  | decode h => exact fun l hl => .inl (yields_decoder _ _ _ _ h l hl)
  | root =>
    intro l hl
    cases hl
  | parent hn h ih => exact fun l hl => ih l (mem_labels_of_parent? h hl)
  | join hn hsuffix ih ihsuffix =>
    intro l hl
    exact (mem_labels_join.mp hl).elim (ih l) (ihsuffix l)
  | recase bits hn ih =>
    intro l hl
    obtain ⟨l', hl', hfold⟩ := exists_of_mem_labels_recase hl
    rw [← Label.isValid_fold_iff, ← Label.fold_eq_empty_iff, ← hfold, Label.isValid_fold_iff,
      Label.fold_eq_empty_iff]
    exact ih l' hl'
  | domain hn ih =>
    intro l hl
    rcases Mailbox.mem_labels_domain_ofName hl with hl | ⟨octets, back, hmem, rfl, hne, hlen⟩
    · exact ih l hl
    · have hsized : (Label.text octets).IsSized :=
        Label.isSized_iff.mpr ((ih _ hmem).imp_right And.left)
      exact .inl ⟨List.length_pos_iff.mpr hne, hlen.trans hsized⟩
  | mailbox hdomain h ih =>
    intro l hl
    exact (mem_labels_toName h hl).elim (ih l) .inl

lemma isValid_iff_decoder_encode :
    n.IsValid ↔ decoder n.encode.toArray 0 = .ok (n, n.encode.length) := by
  constructor
  · intro h
    simpa using reads_encode h _ 0 (Packet.holds_toArray n.encode)
  · intro h
    exact yields_decoder _ _ _ _ h

/-- All labels of a reachable name fit the wire, or are empty. A name that is reached from texts
without a vanishing label fits the wire, and so does the name of a text exactly if it has no such
label. A name is read back from its encoding exactly if it fits the wire. -/
theorem isValid_of_reachable (h : Reachable texts n) :
    (∀ l ∈ n.labels, l.IsValid ∨ l = .text []) ∧
      ((∀ s, texts s → ¬ HasVanishing s.toList) → n.IsValid) ∧
      (∀ s, Name.parse s = .ok n → (n.IsValid ↔ ¬ HasVanishing s.toList)) ∧
      (n.IsValid ↔ decoder n.encode.toArray 0 = .ok (n, n.encode.length)) := by
  refine ⟨fun l hl => (h.isValid_or l hl).imp_right And.left, ?_,
    fun s => isValid_iff_of_parse, isValid_iff_decoder_encode⟩
  intro hnone l hl
  refine (h.isValid_or l hl).resolve_right ?_
  rintro ⟨-, s, hs, hvanishing⟩
  exact hnone s hs hvanishing

/-- The name of a text with escapes, in front of the domain of a mailbox with letters of another
case. -/
theorem isValid_of_reachable_joined :
    let n : Name := ⟨[.text [0x61, 0x2E, 0x42], .text [0xFF], .text [0x78], .bits [0xA8] 5]⟩
    Reachable (· = "a\\.B.\\255") n ∧
      (∀ s, s = "a\\.B.\\255" → ¬ HasVanishing s.toList) ∧ n.IsValid ∧
      decoder n.encode.toArray 0 = .ok (n, 12) := by
  have hparse : Name.parse "a\\.B.\\255" = .ok ⟨[.text [0x61, 0x2E, 0x42], .text [0xFF]]⟩ := by
    refine parse_eq_ok_iff.mpr (.inr ⟨by decide, ?_⟩)
    rw [labelsOnto_of_read (by decide) rfl, labelsOnto_of_read (by decide) rfl, labelsOnto]
    rfl
  -- The label `a@X` and five bits on the wire stand for a mailbox.
  have hdecode := reads_encode (n := ⟨[.text [0x61, 0x40, 0x58], .bits [0xA8] 5]⟩) (by decide) _ 0
    (Packet.holds_toArray _)
  have hnone : ∀ s, s = "a\\.B.\\255" → ¬ HasVanishing s.toList := by
    rintro s rfl
    exact (isValid_iff_of_parse hparse).mp (by decide)
  have htext : Reachable (· = "a\\.B.\\255") ⟨[.text [0x61, 0x2E, 0x42], .text [0xFF]]⟩ :=
    .parse rfl hparse
  intro n
  have hreach : Reachable (· = "a\\.B.\\255") n :=
    .join htext (.recase (fun _ => true) (.domain (.decode hdecode)))
  obtain ⟨-, hvalid, -, hencode⟩ := isValid_of_reachable hreach
  exact ⟨hreach, hnone, hvalid hnone, hencode.mp (hvalid hnone)⟩

/-- Mapping leaves nothing of a soft hyphen, so that it writes a name of one empty label, whose
encoding is read as the root. -/
theorem not_isValid_of_softHyphen :
    Name.parse "\u00AD" = .ok ⟨[.text []]⟩ ∧ ¬ (⟨[.text []]⟩ : Name).IsValid ∧
      (⟨[.text []]⟩ : Name).encode = [0, 0] ∧ decoder #[0, 0] 0 = .ok (root, 1) := by
  refine ⟨parse_eq_ok_iff.mpr (.inr ⟨by decide, ?_⟩), by decide, by decide, ?_⟩
  · rw [labelsOnto_of_read (by decide) rfl, labelsOnto]
    rfl
  · exact walk_of_stop (element_of_zero rfl)

end Name

end StubResolver
