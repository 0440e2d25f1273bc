import StubResolver.Proofs.Message.Equality
import StubResolver.Proofs.Resolver.Attempt

/-!
# Matching and letter case

A query may be sent with its letters in any case. Its octets change in these letters alone, it stays
the same query for whoever compares or hashes it, and whether a response answers it hangs neither on
the case of its letters nor on the case of those in the response.
-/

namespace StubResolver

/-- The mismatch with what was asked in small letters. -/
def Mismatch.fold : Mismatch → Mismatch
  | question asked => question asked.fold
  | mismatch => mismatch

/-- The error with what was asked in small letters. -/
def Error.fold : Error → Error
  | validation server mismatch => validation server mismatch.fold
  | e => e

namespace Query

/-! ### What is sent -/

/-- Which octets of a query on the wire are letters of its name. -/
def letters (q : Query) : List Bool :=
  List.replicate 12 false ++ q.name.letters ++ List.replicate 4 false

/-- A query whose letters change their case is sent in the same number of octets. The octet at a
position changes only if it is a letter of text, by one bit, and if the bit of the stream is set
that is drawn for this letter. The query stays equal, and a hash function is fed the same. -/
structure OnlyRecased (q : Query) (bits : Nat → Bool) : Prop where
  length_eq : ∀ id, ((q.recase bits).encode id).length = (q.encode id).length
  forall₂_letters : ∀ id,
    List.Forall₂ (fun mark b => mark = true → isLetter b = true) q.letters (q.encode id)
  getElem?_eq : ∀ id k, ((q.recase bits).encode id)[k]? = (q.encode id)[k]?.map fun b =>
    if q.letters[k]? = some true ∧ bits ((q.letters.take k).count true) = true then b ^^^ 0x20
    else b
  same : (q.recase bits).same q = true
  hashFeed_eq : (q.recase bits).hashFeed = q.hashFeed

/-- What stands in front of the name of a query on the wire, and behind it, is no letter. -/
lemma exists_encode_eq (q : Query) (id : UInt16) : ∃ front rest : Octets,
    front.length = 12 ∧ rest.length = 4 ∧
      ∀ n, (q.withName n).encode id = front ++ n.encode ++ rest :=
  ⟨(q.message id).header.encode ++ [0, 1, 0, 0, 0, 0, 0, 0],
    Octets.ofUInt16 q.type.code ++ Octets.ofUInt16 q.cls.code, rfl, rfl, fun n => by
      simp [encode_header, encode, withName]⟩

lemma encode_recase (q : Query) (bits : Nat → Bool) (id : UInt16) :
    (q.recase bits).encode id = flipCase bits 0 q.letters (q.encode id) := by
  obtain ⟨front, rest, hfront, -, hencode⟩ := q.exists_encode_eq id
  have hself : q.encode id = front ++ q.name.encode ++ rest := hencode q.name
  have hmarks : (List.replicate 12 false).length = front.length := hfront.symm
  have hname : (List.replicate 12 false ++ q.name.letters).length
      = (front ++ q.name.encode).length := by
    rw [List.length_append, List.length_append, hmarks, Name.length_letters, Name.length_encode]
  have hnone (n : Nat) : ∀ mark ∈ List.replicate n false, mark = false :=
    fun _ => List.eq_of_mem_replicate
  rw [recase, hencode, hself, letters, flipCase_append hname, flipCase_append hmarks,
    flipCase_of_unmarked (hnone 12), flipCase_of_unmarked (hnone 4), Name.encode_recase]
  rfl

lemma forall₂_letters (q : Query) (id : UInt16) :
    List.Forall₂ (fun mark b => mark = true → isLetter b = true) q.letters (q.encode id) := by
  obtain ⟨front, rest, hfront, hrest, hencode⟩ := q.exists_encode_eq id
  have hself : q.encode id = front ++ q.name.encode ++ rest := hencode q.name
  have hnone (octets : Octets) : List.Forall₂ (fun mark b => mark = true → isLetter b = true)
      (List.replicate octets.length false) octets := by
    induction octets with
    | nil => exact .nil
    | cons b octets ih => exact .cons (fun h => Bool.noConfusion h) ih
  rw [hself, letters, ← hfront, ← hrest]
  exact List.rel_append (List.rel_append (hnone front) q.name.forall₂_letters) (hnone rest)

lemma onlyRecased (q : Query) (bits : Nat → Bool) : q.OnlyRecased bits where
  length_eq id := by rw [length_encode, length_encode, wireLength_recase]
  forall₂_letters := q.forall₂_letters
  getElem?_eq id k := by
    rw [encode_recase, getElem?_flipCase, Nat.zero_add]
  same := same_iff.mpr ⟨Name.fold_recase bits q.name, rfl, rfl⟩
  hashFeed_eq := by
    simp [hashFeed, recase, withName]

end Query

namespace Call

variable {p q : Query} {id : UInt16} {m m' : Message}

/-! ### What is accepted -/

lemma asks_eq_of_same (h : p.same q = true) : p.asks = q.asks := by
  obtain ⟨hname, htype, hcls⟩ := Query.same_iff.mp h
  funext x
  simp only [Query.asks, Name.same, hname, htype, hcls]

/-- Whether a message answers a query does not hang on the case of its letters. -/
lemma check_of_same (h : p.same q = true) (id : UInt16) (m : Message) :
    (check p id m).mapError Mismatch.fold = (check q id m).mapError Mismatch.fold := by
  obtain ⟨hname, htype, hcls⟩ := Query.same_iff.mp h
  have hquestion : p.question.fold = q.question.fold := by
    simp only [Query.question, Question.fold, hname, htype, hcls]
  unfold check
  rw [asks_eq_of_same h]
  split_ifs
  · rfl
  · rfl
  · split
    · split_ifs <;> simp [Except.mapError, Mismatch.fold, hquestion]
    · simp [Except.mapError, Mismatch.fold, hquestion]

/-- Whether a message answers a query does not hang on the case of the letters in the message. -/
lemma check_of_same_message (h : m.same m' = true) : check q id m = check q id m' := by
  rw [Message.same, decide_eq_true_eq, Message.fold, Message.fold, Message.mk.injEq] at h
  obtain ⟨hheader, hquestions, -⟩ := h
  have hasks {p p' : Question} (hp : p.fold = p'.fold) : q.asks p = q.asks p' := by
    obtain ⟨hname, htype, hcls⟩ := Question.mk.inj hp
    simp only [Query.asks, Name.same, show p.name.fold = p'.name.fold from hname,
      show p.type = p'.type from htype, show p.cls = p'.cls from hcls]
  unfold check
  rw [hheader]
  generalize m.questions = ps, m'.questions = ps' at hquestions
  rcases ps with _ | ⟨p, _ | ⟨r, rest⟩⟩
  · obtain rfl : ps' = [] := List.map_eq_nil_iff.mp hquestions.symm
    rfl
  · obtain ⟨p', ps', rfl, hp, hrest⟩ := List.map_eq_cons_iff.mp hquestions.symm
    obtain rfl : ps' = [] := List.map_eq_nil_iff.mp hrest
    simp only [hasks hp.symm]
  · obtain ⟨p', ps', rfl, -, hrest⟩ := List.map_eq_cons_iff.mp hquestions.symm
    obtain ⟨r', ps', rfl, -⟩ := List.map_eq_cons_iff.mp hrest
    rfl

variable {c c' : Call} {s s' : Surroundings}

lemma accept_of_same (h : c.query.same c'.query = true) (hid : s.id = s'.id) (i i' : Nat)
    (server : Endpoint) (protocol : Protocol) (d : Delivery) :
    (c.accept s (c.exchange s i server protocol) d).mapError Error.fold
      = (c'.accept s' (c'.exchange s' i' server protocol) d).mapError Error.fold := by
  have hname := (Query.same_iff.mp h).1
  have hlength : (c.request s i protocol).length = (c'.request s' i' protocol).length := by
    rw [length_request, length_request, Query.wireLength, Query.wireLength,
      ← Name.wireLength_fold, hname, Name.wireLength_fold]
  cases hm : Message.decode d.octets with
  | error e => simp only [accept, hm, error_bind]
  | ok m =>
    have hcheck := check_of_same h s.id m
    rw [hid] at hcheck
    simp only [accept, hm, ok_bind, hid, exchange, hlength]
    cases hp : check c.query s'.id m with
    | error mismatch =>
      cases hq : check c'.query s'.id m with
      | error mismatch' =>
        rw [hp, hq] at hcheck
        have hfold : mismatch.fold = mismatch'.fold := Except.error.inj hcheck
        simp only [Except.mapError, error_bind, Error.fold, hfold]
      | ok =>
        rw [hp, hq] at hcheck
        cases hcheck
    | ok =>
      cases hq : check c'.query s'.id m with
      | error mismatch' =>
        rw [hp, hq] at hcheck
        cases hcheck
      | ok => rfl

end Call

/-- Letters in another case are seen on the wire alone. A query whose letters change their case is
sent with these letters changed and stays the same, its variants are all names equal to its own, and
whether a message is accepted as a response to it hangs neither on its variant, nor on whether its
case is changed at all, nor on the case of the letters in the message. -/
theorem Query.recase_isInvisible (q : Query) :
    (∀ bits, q.OnlyRecased bits)
      ∧ (∀ n, q.name.same n = true ↔ ∃ bits, n = (q.recase bits).name)
      ∧ (∀ c c' : Call, c.query.same q = true → c'.query.same q = true → ∀ s s', s.id = s'.id →
        ∀ i i' server protocol d,
          (c.accept s (c.exchange s i server protocol) d).mapError Error.fold
            = (c'.accept s' (c'.exchange s' i' server protocol) d).mapError Error.fold)
      ∧ ∀ id m m', m.same m' = true → Call.check q id m = Call.check q id m' := by
  refine ⟨q.onlyRecased, fun n => Name.same_iff_exists_recase, ?_, fun id m m' => ?_⟩
  · intro c c' hc hc' s s' hid i i' server protocol d
    obtain ⟨hname, htype, hcls⟩ := same_iff.mp hc
    obtain ⟨hname', htype', hcls'⟩ := same_iff.mp hc'
    have hsame : c.query.same c'.query = true := same_iff.mpr
      ⟨hname.trans hname'.symm, htype.trans htype'.symm, hcls.trans hcls'.symm⟩
    exact Call.accept_of_same hsame hid i i' server protocol d
  · exact Call.check_of_same_message

/-- A name with letters next to what only looks like letters: a hyphen, and the octets of a bit
label. -/
def Name.lookalike : Name := ⟨[.text [0x61, 0x2D, 0x5A], .bits [0x41, 0x7A] 16]⟩

/-- Two letters change their case, and a response with both of them changed is accepted. -/
theorem Query.recase_isInvisible_lookalike :
    let q : Query := { name := .lookalike }
    let q' : Query := { name := ⟨[.text [0x41, 0x2D, 0x7A], .bits [0x41, 0x7A] 16]⟩ }
    let echo (p : Query) : Message :=
      { p.message 7 with header := { id := 7, direction := .response } }
    q' = q.recase (fun _ => true) ∧ q.OnlyRecased (fun _ => true)
      ∧ Call.check q 7 (echo q') = .ok () := by
  intro q q' echo
  have h := q.recase_isInvisible
  have hsame : (echo q).same (echo q') = true := by decide
  have haccept : Call.check q 7 (echo q) = .ok () := by decide
  refine ⟨rfl, h.1 _, ?_⟩
  rw [← h.2.2.2 7 (echo q) (echo q') hsame]
  exact haccept

end StubResolver
