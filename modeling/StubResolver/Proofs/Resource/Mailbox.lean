import Mathlib.Data.List.TakeWhile
import StubResolver.Proofs.Text.Utf8
import StubResolver.Resource.Mailbox

/-!
# Mailboxes as names

A mailbox is written as a name and read from one. What is read back is the mailbox that was
written, unless it has no local part and its domain begins with text, whose first label is then
taken for the local part.
-/

namespace StubResolver

/-- Whether the first label of a name is text. -/
def Name.startsWithText (n : Name) : Bool :=
  match n.labels with
  | .text _ :: _ => true
  | _ => false

namespace Mailbox

variable {m : Mailbox} {n : Name}

/-- The name that stands for a mailbox, whether its local part fits into a label or not. -/
def nameForm (m : Mailbox) : Name :=
  if m.localPart.isEmpty then m.domain else ⟨.text m.localOctets :: m.domain.labels⟩

/-- The mailbox that is read where a mailbox was written. -/
def reread (m : Mailbox) : Mailbox := ofName m.nameForm

/-- A mailbox that its name gives back. There is a local part, which fits into a label and has no
at sign, or else the domain does not begin with text. -/
def IsCanonical (m : Mailbox) : Prop :=
  (1 ≤ m.localOctets.length ∧ m.localOctets.length ≤ Label.maxLength
      ∧ '@' ∉ m.localPart.toList)
    ∨ (m.localPart = "" ∧ m.domain.startsWithText = false)

instance : DecidablePred IsCanonical := fun m => by unfold IsCanonical; infer_instance

/-- A mailbox without local part whose domain begins with text. The name that stands for it also
stands for another mailbox. -/
def IsAmbiguous (m : Mailbox) : Prop := m.localPart = "" ∧ m.domain.startsWithText = true

instance : DecidablePred IsAmbiguous := fun m => by unfold IsAmbiguous; infer_instance

/-! ### Writing -/

lemma localOctets_eq_nil_iff : m.localOctets = [] ↔ m.localPart = "" := by
  rw [localOctets, ← Utf8.decodeLossy_eq_nil_iff, Utf8.decodeLossy_encode, String.toList_eq_nil_iff]

lemma toName_eq_ite :
    m.toName = if Label.maxLength < m.localOctets.length
      then .error (.format (.localPartTooLong m.localOctets.length)) else .ok m.nameForm := by
  by_cases h : m.localPart = ""
  · have hlen : m.localOctets.length = 0 := by
      rw [localOctets_eq_nil_iff.mpr h]
      rfl
    simp [toName, nameForm, h, hlen]
  · have hempty : m.localPart.isEmpty = false := by simpa using h
    simp only [toName, nameForm, hempty, Bool.false_eq_true, if_false]

/-- The name of a mailbox has the labels of the domain, and before them the local part, if there is
one. -/
lemma mem_labels_nameForm {l : Label} (hl : l ∈ m.nameForm.labels) :
    l ∈ m.domain.labels ∨ l = .text m.localOctets ∧ m.localOctets ≠ [] := by
  unfold nameForm at hl
  split_ifs at hl with hlocal
  · exact .inl hl
  · rcases List.mem_cons.mp hl with rfl | hl
    · refine .inr ⟨rfl, ?_⟩
      rw [Ne, localOctets_eq_nil_iff]
      simpa using hlocal
    · exact .inl hl

lemma isValid_nameForm (hdomain : m.domain.IsValid)
    (hlocal : m.localOctets.length ≤ Label.maxLength) : m.nameForm.IsValid := by
  intro l hl
  rcases mem_labels_nameForm hl with hl | ⟨rfl, hne⟩
  · exact hdomain l hl
  · exact ⟨List.length_pos_iff.mpr hne, hlocal⟩

/-- A mailbox is written as the name that stands for it. -/
lemma nameChars_eq_chars : m.nameChars = m.nameForm.chars := by
  have hcons (l : Label) (labels : List Label) : Name.chars ⟨l :: labels⟩
      = l.chars ++ '.' :: (if Name.isRoot ⟨labels⟩ then [] else Name.chars ⟨labels⟩) := by
    cases labels <;> simp [Name.chars, Name.isRoot]
  unfold nameChars nameForm
  split_ifs with hlocal hroot
  · rfl
  · rw [hcons, if_pos hroot]
  · rw [hcons, if_neg hroot]

/-! ### Reading -/

lemma ofName_text (octets : Octets) (rest : List Label) :
    ofName ⟨.text octets :: rest⟩ =
      { localPart := String.ofList (Utf8.decodeLossy (octets.takeWhile (· ≠ atSign)))
        domain := ⟨if ((octets.dropWhile (· ≠ atSign)).drop 1).isEmpty then rest
          else .text ((octets.dropWhile (· ≠ atSign)).drop 1) :: rest⟩ } := rfl

lemma ofName_of_not_startsWithText (h : n.startsWithText = false) : ofName n = ⟨"", n⟩ := by
  obtain ⟨_ | ⟨octets | ⟨octets, count⟩, rest⟩⟩ := n
  · rfl
  · cases h
  · rfl

/-- The domain of a mailbox has labels of the name that was read, and before them perhaps what
stands behind the at sign of a label, if anything does. -/
lemma mem_labels_domain_ofName {l : Label} (hl : l ∈ (ofName n).domain.labels) :
    l ∈ n.labels ∨ ∃ octets back, .text octets ∈ n.labels ∧ l = .text back ∧ back ≠ [] ∧
      back.length ≤ octets.length := by
  obtain ⟨_ | ⟨octets | ⟨octets, count⟩, rest⟩⟩ := n
  · exact .inl hl
  · rw [ofName_text] at hl
    dsimp only at hl
    split_ifs at hl with hback
    · exact .inl (List.mem_cons_of_mem _ hl)
    · rcases List.mem_cons.mp hl with rfl | hl
      · refine .inr ⟨octets, _, List.mem_cons_self, rfl, by simpa using hback, ?_⟩
        have := (List.dropWhile_sublist (l := octets) (· ≠ atSign)).length_le
        rw [List.length_drop]
        omega
      · exact .inl (List.mem_cons_of_mem _ hl)
  · exact .inl hl

/-- The domain of a mailbox fits the wire if the name does that stands for the mailbox. -/
lemma isValid_domain_ofName (h : n.IsValid) : (ofName n).domain.IsValid := by
  intro l hl
  rcases mem_labels_domain_ofName hl with hl | ⟨octets, back, hmem, rfl, hne, hlen⟩
  · exact h l hl
  · exact ⟨List.length_pos_iff.mpr hne, hlen.trans (h _ hmem).2⟩

lemma atSign_notMem_ofName (n : Name) : '@' ∉ (ofName n).localPart.toList := by
  obtain ⟨_ | ⟨octets | ⟨octets, count⟩, rest⟩⟩ := n
  · simp [ofName]
  · rw [ofName_text, String.toList_ofList, Utf8.mem_decodeLossy_iff (by decide)]
    intro h
    exact absurd (List.mem_takeWhile_imp h) (by decide)
  · simp [ofName]

/-! ### Reading what was written -/

/-- A mailbox is read back unless its name stands for another one. -/
lemma reread_eq_self (hat : '@' ∉ m.localPart.toList) (h : ¬ m.IsAmbiguous) : m.reread = m := by
  by_cases hlocal : m.localPart = ""
  · have htext : m.domain.startsWithText = false := by
      simpa [IsAmbiguous, hlocal] using h
    have hform : m.nameForm = m.domain := by simp [nameForm, hlocal]
    rw [reread, hform, ofName_of_not_startsWithText htext, ← hlocal]
  · have hform : m.nameForm = ⟨.text m.localOctets :: m.domain.labels⟩ := by
      simp [nameForm, hlocal]
    have hoctets : ∀ b ∈ m.localOctets, decide (b ≠ atSign) = true := by
      intro b hb
      rw [decide_eq_true_iff]
      rintro rfl
      exact hat ((Utf8.mem_encode_iff (c := '@') (by decide)).mp hb)
    rw [reread, hform, ofName_text, List.takeWhile_eq_self_iff.mpr hoctets,
      List.dropWhile_eq_nil_iff.mpr hoctets]
    simp [localOctets]

lemma reread_of_isCanonical (h : m.IsCanonical) : m.reread = m := by
  rcases h with ⟨hpos, -, hat⟩ | ⟨hlocal, htext⟩
  · refine reread_eq_self hat ?_
    rintro ⟨hlocal, -⟩
    rw [localOctets_eq_nil_iff.mpr hlocal] at hpos
    exact absurd hpos (by decide)
  · exact reread_eq_self (by simp [hlocal]) (by simp [IsAmbiguous, htext])

lemma length_le_of_isCanonical (h : m.IsCanonical) : m.localOctets.length ≤ Label.maxLength := by
  rcases h with ⟨-, hmax, -⟩ | ⟨hlocal, -⟩
  · exact hmax
  · simp [localOctets_eq_nil_iff.mpr hlocal]

/-- A name that begins with text is not read as a mailbox without local part in that domain. -/
lemma fold_ofName_ne (h : n.startsWithText = true) : (ofName n).fold ≠ fold ⟨"", n⟩ := by
  obtain ⟨_ | ⟨octets | ⟨octets, count⟩, rest⟩⟩ := n
  · cases h
  · -- The domain that is read lacks a label, or its first label lacks an octet.
    intro heq
    rw [ofName_text] at heq
    have hdomain := congrArg (fun m => m.domain.labels) heq
    simp only [fold, Name.fold] at hdomain
    split_ifs at hdomain with hback
    · simpa using congrArg List.length hdomain
    · simp only [List.map_cons, List.cons.injEq, Label.fold, Label.text.injEq] at hdomain
      have hlen := congrArg List.length hdomain.1
      have := (List.dropWhile_sublist (l := octets) (· ≠ atSign)).length_le
      have := List.length_pos_iff.mpr (mt List.isEmpty_iff.mpr hback)
      simp only [List.length_map, List.length_drop] at *
      omega
  · cases h

/-- What is read back is the mailbox that was written, up to the case of letters, exactly if its
name does not stand for another one. -/
lemma fold_reread_eq_iff (hat : '@' ∉ m.localPart.toList) :
    m.reread.fold = m.fold ↔ ¬ m.IsAmbiguous := by
  constructor
  · rintro heq ⟨hlocal, htext⟩
    have hm : m = ⟨"", m.domain⟩ := by rw [← hlocal]
    have hform : m.nameForm = m.domain := by simp [nameForm, hlocal]
    rw [reread, hform, hm] at heq
    exact fold_ofName_ne htext heq
  · intro h
    rw [reread_eq_self hat h]

end Mailbox

end StubResolver
