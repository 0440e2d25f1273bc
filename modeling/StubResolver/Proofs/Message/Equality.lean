import StubResolver.Message.Question
import StubResolver.Proofs.Name.LetterCase

/-!
# Equality of names and queries

Names are equal if their labels are, one by one: text octet by octet up to the case of letters, and
bits exactly. Whatever is made of equal names is equal too, and a hash function is fed the same for
them, piece by piece. For other names it is fed something else, unless their text holds an octet
that also stands in front of labels. Queries are equal if their names, types and classes are,
whatever their flags.
-/

namespace StubResolver

/-! ### Octets and labels -/

/-- Lists with the same images have them one by one. -/
lemma map_eq_map_iff_forall₂ {α β : Type} {f : α → β} {r : α → α → Prop}
    (h : ∀ a b, f a = f b ↔ r a b) {as bs : List α} :
    as.map f = bs.map f ↔ List.Forall₂ r as bs := by
  rw [← List.forall₂_eq_eq_eq, List.forall₂_map_left_iff, List.forall₂_map_right_iff]
  simp only [h]

/-- Octets that are equal, or the two cases of one letter. -/
def SameUpToCase (b b' : UInt8) : Prop := b' = b ∨ isLetter b = true ∧ b' = b ^^^ 0x20

lemma lowerOctet_eq_iff (b b' : UInt8) : lowerOctet b = lowerOctet b' ↔ SameUpToCase b b' := by
  constructor
  · exact eq_or_eq_xor_of_lowerOctet
  · rintro (rfl | ⟨hletter, rfl⟩)
    · rfl
    · exact (lowerOctet_xor hletter).symm

namespace Label

/-- Labels that are equal: text up to the case of its letters, and bits exactly. Text is never equal
to bits. -/
inductive Matches : Label → Label → Prop
  | text {octets octets' : Octets} (h : List.Forall₂ SameUpToCase octets octets') :
    Matches (text octets) (text octets')
  | bits (octets : Octets) (count : Nat) : Matches (bits octets count) (bits octets count)

lemma fold_eq_iff (l l' : Label) : l.fold = l'.fold ↔ l.Matches l' := by
  constructor
  · intro h
    cases l with
    | text octets =>
      cases l' with
      | text octets' =>
        exact .text ((map_eq_map_iff_forall₂ lowerOctet_eq_iff).mp (Label.text.inj h))
      | bits octets' count' => cases h
    | bits octets count =>
      cases l' with
      | text octets' => cases h
      | bits octets' count' =>
        cases h
        exact .bits octets count
  · intro h
    cases h with
    | text h => exact congrArg text ((map_eq_map_iff_forall₂ lowerOctet_eq_iff).mpr h)
    | bits octets count => rfl

end Label

/-! ### What a hash function is fed -/

lemma Octets.leastFirst_two_inj {n n' : Nat} (hn : n < 0x10000) (hn' : n' < 0x10000)
    (h : leastFirst 2 n = leastFirst 2 n') : n = n' := by
  simp only [leastFirst, List.cons.injEq, ← UInt8.toNat_inj, UInt8.toNat_ofNat'] at h
  omega

/-- Pieces that a label begins, if there are any. -/
def BeginsLabel (pieces : List Octets) : Prop :=
  ∀ piece ∈ pieces.head?, piece = [0] ∨ piece = [1]

namespace Label

variable {l l' : Label} {labels labels' : List Label} {octets octets' : Octets}
  {rest rest' : List Octets}

/-- A label whose text holds neither of the octets that a hash function is fed in front of a label,
and whose number of bits fits two octets. -/
def IsClear : Label → Prop
  | text octets => ∀ b ∈ octets, b ≠ 0 ∧ b ≠ 1
  | bits _ count => count < 0x10000

lemma beginsLabel_hashFeed (l : Label) : BeginsLabel (l.hashFeed ++ rest) := by
  cases l <;> simp [BeginsLabel, hashFeed]

lemma beginsLabel_flatMap (labels : List Label) : BeginsLabel (labels.flatMap hashFeed) := by
  cases labels with
  | nil => simp [BeginsLabel]
  | cons l labels => exact l.beginsLabel_hashFeed

/-- An octet of clear text is not mistaken for the beginning of a label. -/
lemma not_beginsLabel {b : UInt8} (hb : b ≠ 0 ∧ b ≠ 1) : ¬BeginsLabel ([lowerOctet b] :: rest) := by
  have hlower : ∀ b, b ≠ 0 ∧ b ≠ 1 → lowerOctet b ≠ 0 ∧ lowerOctet b ≠ 1 :=
    forall_octet (by decide +kernel)
  simpa [BeginsLabel] using hlower b hb

lemma text_hashFeed_inj (hl : (text octets).IsClear) (hl' : (text octets').IsClear)
    (hrest : BeginsLabel rest) (hrest' : BeginsLabel rest')
    (h : octets.map (fun b => [lowerOctet b]) ++ rest
      = octets'.map (fun b => [lowerOctet b]) ++ rest') :
    octets.map lowerOctet = octets'.map lowerOctet ∧ rest = rest' := by
  induction octets generalizing octets' with
  | nil =>
    cases octets' with
    | nil => exact ⟨rfl, h⟩
    | cons b' octets' =>
      obtain rfl : rest = _ := h
      exact (not_beginsLabel (hl' b' List.mem_cons_self) hrest).elim
  | cons b octets ih =>
    cases octets' with
    | nil =>
      obtain rfl : _ = rest' := h
      exact (not_beginsLabel (hl b List.mem_cons_self) hrest').elim
    | cons b' octets' =>
      obtain ⟨hb, h⟩ := List.cons.inj h
      obtain ⟨hoctets, hrest⟩ := ih (fun c hc => hl c (List.mem_cons_of_mem _ hc))
        (fun c hc => hl' c (List.mem_cons_of_mem _ hc)) h
      exact ⟨List.cons_eq_cons.mpr ⟨List.singleton_inj.mp hb, hoctets⟩, hrest⟩

/-- What is fed for a clear label is cut off from what is fed for the labels behind it in one way
only. -/
lemma hashFeed_append_inj (hl : l.IsClear) (hl' : l'.IsClear) (hrest : BeginsLabel rest)
    (hrest' : BeginsLabel rest') (h : l.hashFeed ++ rest = l'.hashFeed ++ rest') :
    l.fold = l'.fold ∧ rest = rest' := by
  cases l with
  | text octets =>
    cases l' with
    | text octets' =>
      obtain ⟨hoctets, hrest⟩ := text_hashFeed_inj hl hl' hrest hrest' (List.cons.inj h).2
      exact ⟨congrArg text hoctets, hrest⟩
    | bits octets' count' => simp [hashFeed] at h
  | bits octets count =>
    cases l' with
    | text octets' => simp [hashFeed] at h
    | bits octets' count' =>
      simp only [hashFeed, List.cons_append, List.cons.injEq, List.nil_append] at h
      obtain ⟨-, -, rfl, hcount, rfl⟩ := h
      obtain rfl := Octets.leastFirst_two_inj hl hl' hcount
      exact ⟨rfl, rfl⟩

lemma map_fold_eq_of_hashFeed (hl : ∀ l ∈ labels, l.IsClear) (hl' : ∀ l ∈ labels', l.IsClear)
    (h : labels.flatMap hashFeed = labels'.flatMap hashFeed) :
    labels.map fold = labels'.map fold := by
  have hne (l : Label) : l.hashFeed ≠ [] := by cases l <;> simp [hashFeed]
  induction labels generalizing labels' with
  | nil =>
    cases labels' with
    | nil => rfl
    | cons l' labels' => simp [hne l'] at h
  | cons l labels ih =>
    cases labels' with
    | nil => simp [hne l] at h
    | cons l' labels' =>
      rw [List.forall_mem_cons] at hl hl'
      obtain ⟨hfold, hrest⟩ := hashFeed_append_inj hl.1 hl'.1 (beginsLabel_flatMap labels)
        (beginsLabel_flatMap labels') h
      rw [List.map_cons, List.map_cons, hfold, ih hl.2 hl'.2 hrest]

end Label

/-! ### Names -/

namespace Name

variable {n m k l : Name}

lemma same_iff_forall₂ : n.same m = true ↔ List.Forall₂ Label.Matches n.labels m.labels := by
  rw [same_iff, ← map_eq_map_iff_forall₂ Label.fold_eq_iff, fold, fold, Name.mk.injEq]

lemma equivalence_same : Equivalence fun n m : Name => n.same m = true where
  refl _ := same_iff.mpr rfl
  symm h := same_iff.mpr (same_iff.mp h).symm
  trans h h' := same_iff.mpr ((same_iff.mp h).trans (same_iff.mp h'))

lemma fold_join (n m : Name) : (n.join m).fold = n.fold.join m.fold :=
  congrArg mk List.map_append

lemma same_join (h : n.same m = true) (h' : k.same l = true) :
    (n.join k).same (m.join l) = true := by
  rw [same_iff] at h h' ⊢
  rw [fold_join, fold_join, h, h']

lemma rel_parent? (h : n.same m = true) :
    Option.Rel (fun n m => n.same m = true) n.parent? m.parent? := by
  obtain ⟨labels⟩ := n
  obtain ⟨labels'⟩ := m
  cases same_iff_forall₂.mp h with
  | nil => exact .none
  | cons _ hlabels => exact .some (same_iff_forall₂.mpr hlabels)

lemma same_recase (h : n.same m = true) (bits bits' : Nat → Bool) :
    (n.recase bits).same (m.recase bits') = true := by
  rw [same_iff, fold_recase, fold_recase, ← same_iff]
  exact h

/-- A name of clear labels. -/
def IsClear (n : Name) : Prop := ∀ l ∈ n.labels, l.IsClear

lemma same_of_hashFeed (hn : n.IsClear) (hm : m.IsClear) (h : n.hashFeed = m.hashFeed) :
    n.same m = true :=
  same_iff.mpr (congrArg mk (Label.map_fold_eq_of_hashFeed hn hm (List.cons.inj h).2))

/-- In text that is not clear, the beginning of a label can be mistaken for an octet. -/
example :
    let n : Name := ⟨[.text [0x61, 0, 0x62], .text [0x63]]⟩
    let m : Name := ⟨[.text [0x61], .text [0x62, 0, 0x63]]⟩
    n.hashFeed = m.hashFeed ∧ n.same m = false := by decide

/-- Names that nothing made of them tells apart. A hash function is fed the same pieces for them,
and they are as long on the wire. Without their first labels, joined to equal names on either side,
and with the case of their letters changed, each by bits of its own, they are equal. -/
structure Interchangeable (n m : Name) : Prop where
  hashFeed_eq : n.hashFeed = m.hashFeed
  wireLength_eq : n.wireLength = m.wireLength
  parent : Option.Rel (fun n m => n.same m = true) n.parent? m.parent?
  join_right : ∀ k l : Name, k.same l = true → (n.join k).same (m.join l) = true
  join_left : ∀ k l : Name, k.same l = true → (k.join n).same (l.join m) = true
  recase : ∀ bits bits', (n.recase bits).same (m.recase bits') = true

lemma interchangeable_of_same (h : n.same m = true) : n.Interchangeable m where
  hashFeed_eq := by rw [← hashFeed_fold, same_iff.mp h, hashFeed_fold]
  wireLength_eq := by rw [← wireLength_fold, same_iff.mp h, wireLength_fold]
  parent := rel_parent? h
  join_right _ _ hsuffix := same_join h hsuffix
  join_left _ _ hfront := same_join hfront h
  recase := same_recase h

end Name

/-! ### Queries -/

namespace Query

variable {p q : Query}

lemma same_iff : p.same q = true ↔ p.name.fold = q.name.fold ∧ p.type = q.type ∧ p.cls = q.cls := by
  rw [same, Bool.and_eq_true, Bool.and_eq_true, Name.same_iff, beq_iff_eq, beq_iff_eq, and_assoc]

lemma equivalence_same : Equivalence fun p q : Query => p.same q = true := by
  have hsame (p q : Query) : p.same q = true ↔ p.question.fold = q.question.fold := by
    rw [same_iff, question, question, Question.fold, Question.fold, Question.mk.injEq]
  constructor
  · exact fun q => (hsame q q).mpr rfl
  · exact fun h => (hsame _ _).mpr ((hsame _ _).mp h).symm
  · exact fun h h' => (hsame _ _).mpr (((hsame _ _).mp h).trans ((hsame _ _).mp h'))

lemma hashFeed_eq_of_same (h : p.same q = true) : p.hashFeed = q.hashFeed := by
  obtain ⟨hname, htype, hcls⟩ := same_iff.mp h
  rw [hashFeed, hashFeed, htype, hcls, ← Name.hashFeed_fold, hname, Name.hashFeed_fold]

lemma same_of_hashFeed (hp : p.name.IsClear) (hq : q.name.IsClear) (h : p.hashFeed = q.hashFeed) :
    p.same q = true := by
  obtain ⟨hname, hcodes⟩ := List.append_inj' h rfl
  simp only [List.cons.injEq, and_true] at hcodes
  have htype := Octets.leastFirst_two_inj p.type.code.toNat_lt q.type.code.toNat_lt hcodes.1
  have hcls := Octets.leastFirst_two_inj p.cls.code.toNat_lt q.cls.code.toNat_lt hcodes.2
  refine same_iff.mpr ⟨Name.same_iff.mp (Name.same_of_hashFeed hp hq hname), ?_, ?_⟩
  · simpa using congrArg RecordType.ofCode? htype
  · simpa using congrArg RecordClass.ofCode? hcls

/-- A query asks a question exactly if it is equal to every query that is made of it. -/
lemma asks_iff_forall_flags {r : Question} :
    q.asks r = true ↔ ∀ flags, q.same ⟨r.name, r.type, r.cls, flags⟩ = true :=
  ⟨fun h _ => h, fun h => h {}⟩

end Query

/-- Equality is kept by all that is made of names and queries. Names are equal if their labels are,
one by one, and then nothing tells them apart, not even a hash function. Queries are equal whatever
their flags, a hash function is fed the same for them, and a query asks a question exactly if it is
equal to every query that is made of the question. A hash function is fed the same for clear names
only if they are equal. -/
theorem same_isCongruence :
    Equivalence (fun n m : Name => n.same m = true)
      ∧ (∀ n m : Name, n.same m = true ↔ List.Forall₂ Label.Matches n.labels m.labels)
      ∧ (∀ n m : Name, n.same m = true → n.Interchangeable m)
      ∧ Equivalence (fun p q : Query => p.same q = true)
      ∧ (∀ p q : Query, p.same q = true → p.hashFeed = q.hashFeed)
      ∧ (∀ (q : Query) (r : Question),
        q.asks r = true ↔ ∀ flags, q.same ⟨r.name, r.type, r.cls, flags⟩ = true)
      ∧ (∀ n m : Name, n.IsClear → m.IsClear → n.hashFeed = m.hashFeed → n.same m = true)
      ∧ ∀ p q : Query, p.name.IsClear → q.name.IsClear → p.hashFeed = q.hashFeed →
        p.same q = true := by
  refine ⟨Name.equivalence_same, fun n m => Name.same_iff_forall₂, fun n m => ?_,
    Query.equivalence_same, fun p q => Query.hashFeed_eq_of_same,
    fun q r => Query.asks_iff_forall_flags, fun n m => Name.same_of_hashFeed,
    fun p q => Query.same_of_hashFeed⟩
  exact Name.interchangeable_of_same

/-- A letter in both cases; a bracket and a brace, which differ like the two cases of a letter; and
the same with an octet of bits. -/
theorem same_isCongruence_bracketed :
    let n : Name := ⟨[.text [0x61, 0x5B], .bits [0x41] 8]⟩
    let m : Name := ⟨[.text [0x41, 0x5B], .bits [0x41] 8]⟩
    let k : Name := ⟨[.text [0x61, 0x7B], .bits [0x61] 8]⟩
    let p : Query := { name := n }
    let q : Query := { name := m, flags := { recursionDesired := false } }
    n.same m = true ∧ n.Interchangeable m
      ∧ n.IsClear ∧ k.IsClear ∧ n.same k = false ∧ n.hashFeed ≠ k.hashFeed
      ∧ p.same q = true ∧ p.hashFeed = q.hashFeed ∧ p.asks q.question = true
      ∧ p.hashFeed ≠ { p with name := k }.hashFeed := by
  intro n m k p q
  obtain ⟨-, -, hinterchangeable, -, hfeed, hasks, hname, hquery⟩ := same_isCongruence
  have hsame : n.same m = true := by decide
  have hn : n.IsClear := by simp [n, Name.IsClear, Label.IsClear]
  have hk : k.IsClear := by simp [k, Name.IsClear, Label.IsClear]
  have hother : n.same k = false := by decide
  have hpq : p.same q = true := by decide
  refine ⟨hsame, hinterchangeable n m hsame, hn, hk, hother, ?_, hpq, hfeed p q hpq,
    (hasks p q.question).mpr fun flags => hpq, ?_⟩
  · intro h
    exact Bool.noConfusion (hother.symm.trans (hname n k hn hk h))
  · intro h
    have hp := hquery p { p with name := k } hn hk h
    revert hp
    decide

end StubResolver
