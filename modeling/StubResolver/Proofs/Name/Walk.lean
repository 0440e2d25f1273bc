import StubResolver.Proofs.Name.Element

/-!
# The walk along a name

From a position on, labels and compression pointers lead to other positions, until the name ends or
something stands in the way. The walk may come back to a pointer that it followed, so that it need
not end by itself. What is read as a name are the labels of the walk, if it ends behind at most 128
pointers, and reading takes a bounded number of turns whether it does or not.
-/

namespace StubResolver

open Packet

namespace Name

variable {p : Packet} {i j k n target hops hops' : Nat} {resume : Option Nat}
  {done labels labels' : List Label} {l : Label} {e : Error}

/-! ### What stands in the way -/

/-- What a walk that followed so many pointers cannot pass at a position, and the error for it. -/
inductive Obstacle (p : Packet) (i hops : Nat) : Error → Prop where
  | short (h : BreaksOff p i) : Obstacle p i hops (.format .shortInput)
  | mark {b : UInt8} (hmark : p[i]? = some b) (hb : b = 0x40 ∨ 0x42 ≤ b ∧ b ≤ 0xBF) :
      Obstacle p i hops (.unsupportedLabelType b)
  | forward {target : Nat} (hpointer : PointsTo p i target) (hforward : i ≤ target) :
      Obstacle p i hops (.format (.forwardPointer i target))
  | many {target : Nat} (hpointer : PointsTo p i target) (hback : target < i) (hhops : hops = 128) :
      Obstacle p i hops (.format .tooManyPointers)

lemma obstacle_of_element (h : element p i = .error e) : Obstacle p i hops e := by
  have hstands := stands_element p i
  rw [h] at hstands
  cases hstands with
  | short hshort => exact .short hshort
  | other hmark hother => exact .mark hmark hother

/-- An obstacle ends the walk with its error. -/
lemma walk_of_obstacle (h : Obstacle p i hops e) : walk p i hops resume done = .error e := by
  cases h with
  | short h => exact walk_of_error (element_of_breaksOff h)
  | mark hmark hb => exact walk_of_error (element_of_otherMark hmark hb)
  | forward hpointer hforward =>
    rw [walk_of_pointer (element_of_pointsTo hpointer), if_pos hforward]
  | many hpointer hback hhops =>
    rw [walk_of_pointer (element_of_pointsTo hpointer), if_neg (Nat.not_le.mpr hback),
      if_pos (show maxPointers ≤ hops from Nat.le_of_eq hhops.symm)]

/-! ### Where the walk leads -/

/-- The walk from a position comes to another one. On its way it meets labels and follows so many
pointers. -/
inductive LeadsTo (p : Packet) : Nat → List Label → Nat → Nat → Prop where
  | here {i : Nat} : LeadsTo p i [] 0 i
  | label {i k hops : Nat} {l : Label} {labels : List Label} (hl : l.IsValid)
      (hp : Holds p i l.encode) (h : LeadsTo p (i + l.wireLength) labels hops k) :
      LeadsTo p i (l :: labels) hops k
  | pointer {i k hops target : Nat} {labels : List Label} (hpointer : PointsTo p i target)
      (hback : target < i) (h : LeadsTo p target labels hops k) : LeadsTo p i labels (hops + 1) k

lemma LeadsTo.trans (h : LeadsTo p i labels hops j) (h' : LeadsTo p j labels' hops' k) :
    LeadsTo p i (labels ++ labels') (hops + hops') k := by
  induction h with
  | here => simpa using h'
  | label hl hp _ ih => exact .label hl hp (ih h')
  | pointer hpointer hback _ ih =>
    rw [Nat.add_right_comm]
    exact .pointer hpointer hback (ih h')

/-- Labels that stand behind each other lead to the position behind them. -/
lemma leadsTo_of_holds (hlabels : ∀ l ∈ labels, l.IsValid)
    (hp : Holds p i (labels.flatMap Label.encode)) :
    LeadsTo p i labels 0 (i + (labels.flatMap Label.encode).length) := by
  induction labels generalizing i with
  | nil => exact .here
  | cons l labels ih =>
    obtain ⟨hl, hlabels⟩ := List.forall_mem_cons.mp hlabels
    rw [List.flatMap_cons] at hp ⊢
    obtain ⟨hp, hrest⟩ := holds_append.mp hp
    rw [Label.length_encode] at hrest
    refine .label hl hp ?_
    rw [List.length_append, Label.length_encode, ← Nat.add_assoc]
    exact ih hlabels hrest

/-- Either the walk comes to its end without a pointer, or it follows a first one. -/
lemma LeadsTo.first (h : LeadsTo p i labels hops k) :
    hops = 0 ∨ ∃ front back j target n, hops = n + 1 ∧ labels = front ++ back
      ∧ LeadsTo p i front 0 j ∧ PointsTo p j target ∧ target < j ∧ LeadsTo p target back n k := by
  induction h with
  | here => exact Or.inl rfl
  | @label i k hops l labels hl hp h ih =>
    obtain hzero | ⟨front, back, j, target, n, hhops, rfl, hfront, hpointer, hback, hrest⟩ := ih
    · exact Or.inl hzero
    · exact Or.inr ⟨l :: front, back, j, target, n, hhops, rfl, .label hl hp hfront, hpointer,
        hback, hrest⟩
  | @pointer i k hops target labels hpointer hback h ih =>
    exact Or.inr ⟨[], labels, i, target, hops, rfl, rfl, .here, hpointer, hback, h⟩

/-- Reading goes on where the walk leads to, as long as it may follow so many pointers. Where
reading resumes is settled by the first pointer. -/
lemma walk_of_leadsTo (h : LeadsTo p i labels n k) (hops : Nat) (resume : Option Nat)
    (done : List Label) (hn : hops + n ≤ maxPointers) :
    ∃ resume', walk p i hops resume done = walk p k (hops + n) resume' (labels.reverse ++ done)
      ∧ (n = 0 → resume' = resume) ∧ (∀ j, resume = some j → resume' = some j) := by
  induction h generalizing hops resume done with
  | here => exact ⟨resume, rfl, fun _ => rfl, fun _ hj => hj⟩
  | @label i k n l labels hl hp _ ih =>
    obtain ⟨resume', hwalk, hkept⟩ := ih hops resume (l :: done) hn
    refine ⟨resume', ?_, hkept⟩
    rw [walk_of_label (element_of_holds hl hp), hwalk, List.reverse_cons, List.append_assoc,
      List.singleton_append]
  | @pointer i k n target labels hpointer hback _ ih =>
    obtain ⟨resume', hwalk, -, hkept⟩ :=
      ih (hops + 1) (some (resume.getD (i + 2))) done (by omega)
    refine ⟨resume', ?_, fun hzero => by omega, ?_⟩
    · rw [walk_of_pointer (element_of_pointsTo hpointer), if_neg (Nat.not_le.mpr hback),
        if_neg (by omega), hwalk, Nat.add_right_comm, Nat.add_assoc]
    · rintro j rfl
      exact hkept j rfl

/-! ### Where the walk ends -/

/-- The walk ends at a position: the name does, or something stands in the way. -/
def EndsAt (p : Packet) (k hops : Nat) : Prop := p[k]? = some 0 ∨ ∃ e, Obstacle p k hops e

/-- Every walk comes to an end, as it may follow only so many pointers. -/
lemma exists_endsAt (p : Packet) (i : Nat) :
    ∃ labels hops k, LeadsTo p i labels hops k ∧ hops ≤ 128 ∧ EndsAt p k hops := by
  suffices h : ∀ hops (resume : Option Nat) (done : List Label), hops ≤ 128 →
      ∃ labels n k, LeadsTo p i labels n k ∧ hops + n ≤ 128 ∧ EndsAt p k (hops + n) by
    simpa using h 0 none [] (Nat.zero_le _)
  -- The walk ends for the reason for which reading does, whatever is resumed or was met before.
  intro hops resume done hhops
  fun_induction walk p i hops resume done with
  | case1 i hops resume done e helement =>
    exact ⟨[], 0, i, .here, hhops, Or.inr ⟨e, obstacle_of_element helement⟩⟩
  | case2 i hops resume done helement =>
    exact ⟨[], 0, i, .here, hhops, Or.inl (zero_of_element helement)⟩
  | case3 i hops resume done l helement _ _ ih =>
    obtain ⟨labels, n, k, hlead, hn, hend⟩ := ih hhops
    obtain ⟨hl, hp⟩ := element_eq_label_iff.mp helement
    exact ⟨l :: labels, n, k, .label hl hp hlead, hn, hend⟩
  | case4 i hops resume done target helement hforward =>
    exact ⟨[], 0, i, .here, hhops,
      Or.inr ⟨_, .forward (pointsTo_of_element helement) hforward⟩⟩
  | case5 i hops resume done target helement hback hmany =>
    exact ⟨[], 0, i, .here, hhops, Or.inr ⟨_, .many (pointsTo_of_element helement)
      (Nat.not_le.mp hback) (Nat.le_antisymm hhops hmany)⟩⟩
  | case6 i hops resume done target helement hback hmany ih =>
    obtain ⟨labels, n, k, hlead, hn, hend⟩ := ih (Nat.not_le.mp hmany)
    have hsum : hops + 1 + n = hops + (n + 1) := by omega
    rw [hsum] at hn hend
    exact ⟨labels, n + 1, k,
      .pointer (pointsTo_of_element helement) (Nat.not_le.mp hback) hlead, hn, hend⟩

/-- Where the walk ends, neither a label nor a pointer leads on, unless it may not be followed. -/
lemma element_of_endsAt (h : EndsAt p k hops) :
    element p k = .ok .stop ∨ (∃ e, element p k = .error e)
      ∨ ∃ target, element p k = .ok (.pointer target) ∧ (target < k → hops = 128) := by
  obtain hzero | ⟨e, hobstacle⟩ := h
  · exact Or.inl (element_of_zero hzero)
  · cases hobstacle with
    | short h => exact Or.inr (Or.inl ⟨_, element_of_breaksOff h⟩)
    | mark hmark hb => exact Or.inr (Or.inl ⟨_, element_of_otherMark hmark hb⟩)
    | forward hpointer hforward =>
      exact Or.inr (Or.inr ⟨_, element_of_pointsTo hpointer, fun hback => by omega⟩)
    | many hpointer hback hhops =>
      exact Or.inr (Or.inr ⟨_, element_of_pointsTo hpointer, fun _ => hhops⟩)

/-- From a label a walk goes nowhere or on to what stands behind the label. -/
lemma LeadsTo.of_label {l : Label} (h : LeadsTo p i labels hops k) (hl : l.IsValid)
    (hp : Holds p i l.encode) : labels = [] ∧ hops = 0 ∧ k = i ∨
      ∃ rest, labels = l :: rest ∧ LeadsTo p (i + l.wireLength) rest hops k := by
  have helement := element_of_holds hl hp
  cases h with
  | here => exact Or.inl ⟨rfl, rfl, rfl⟩
  | label hl' hp' h =>
    cases helement.symm.trans (element_of_holds hl' hp')
    exact Or.inr ⟨_, rfl, h⟩
  | pointer hpointer _ _ => cases helement.symm.trans (element_of_pointsTo hpointer)

/-- From a pointer a walk goes nowhere or on to what it points to. -/
lemma LeadsTo.of_pointer (h : LeadsTo p i labels hops k) (hpointer : PointsTo p i target) :
    labels = [] ∧ hops = 0 ∧ k = i ∨
      ∃ n, hops = n + 1 ∧ target < i ∧ LeadsTo p target labels n k := by
  have helement := element_of_pointsTo hpointer
  cases h with
  | here => exact Or.inl ⟨rfl, rfl, rfl⟩
  | label hl hp _ => cases helement.symm.trans (element_of_holds hl hp)
  | pointer hpointer' hback h =>
    cases helement.symm.trans (element_of_pointsTo hpointer')
    exact Or.inr ⟨_, rfl, hback, h⟩

/-- What leads on behind the end of a walk is a pointer that it may not follow. -/
lemma LeadsTo.many (h : LeadsTo p i labels hops k) (hend : EndsAt p k n)
    (h' : LeadsTo p i labels' hops' j) (hlt : hops < hops') :
    Obstacle p k n (.format .tooManyPointers) := by
  -- Both walks take the same steps until the first of them ends.
  induction h generalizing labels' hops' with
  | here =>
    cases h' with
    | here => exact (Nat.lt_irrefl 0 hlt).elim
    | label hl hp _ =>
      have helement := element_of_holds hl hp
      rcases element_of_endsAt hend with h | ⟨e, h⟩ | ⟨target, h, -⟩ <;>
        cases helement.symm.trans h
    | pointer hpointer hback _ =>
      have helement := element_of_pointsTo hpointer
      rcases element_of_endsAt hend with h | ⟨e, h⟩ | ⟨target, h, hhops⟩ <;>
        cases helement.symm.trans h
      exact .many hpointer hback (hhops hback)
  | label hl hp _ ih =>
    rcases h'.of_label hl hp with ⟨-, rfl, -⟩ | ⟨rest, -, h'⟩
    · exact (Nat.not_lt_zero _ hlt).elim
    · exact ih hend h' hlt
  | pointer hpointer _ _ ih =>
    rcases h'.of_pointer hpointer with ⟨-, rfl, -⟩ | ⟨n, rfl, -, h'⟩
    · exact (Nat.not_lt_zero _ hlt).elim
    · exact ih hend h' (Nat.lt_of_succ_lt_succ hlt)

/-! ### What is read -/

/-- A name that begins at a position ends in front of another, as it stands there: behind its zero
octet, or behind its first pointer. -/
def EndsInPlace (p : Packet) (i j : Nat) : Prop :=
  ∃ labels k, LeadsTo p i labels 0 k
    ∧ (p[k]? = some 0 ∧ j = k + 1 ∨ ∃ target, PointsTo p k target ∧ j = k + 2)

lemma LeadsTo.le (h : LeadsTo p i labels hops k) (hzero : hops = 0) : i ≤ k := by
  induction h with
  | here => exact Nat.le_refl _
  | label _ _ _ ih => exact Nat.le_trans (Nat.le_add_right _ _) (ih hzero)
  | pointer => cases hzero

lemma EndsInPlace.bounds (h : EndsInPlace p i j) : i < j ∧ j ≤ p.size := by
  obtain ⟨labels, k, hlead, ⟨hzero, rfl⟩ | ⟨target, ⟨-, hp⟩, rfl⟩⟩ := h
  · have hk := (Array.getElem?_eq_some_iff.mp hzero).1
    have := hlead.le rfl
    omega
  · have hk := hp.length_le
    have := hlead.le rfl
    simp only [pointerTo, List.length_cons, List.length_nil, Decoder.remaining] at hk
    omega

/-- Where a pointer is followed, reading resumes behind the first one. -/
lemma decoder_of_pointer {front back : List Label} (hfront : LeadsTo p i front 0 j)
    (hpointer : PointsTo p j target) (hback : target < j) (hrest : LeadsTo p target back hops k)
    (hhops : hops < 128) (hzero : p[k]? = some 0) :
    decoder p i = .ok (⟨front ++ back⟩, j + 2) := by
  obtain ⟨resume, hwalk, hresume, -⟩ := walk_of_leadsTo hfront 0 none [] (Nat.zero_le _)
  obtain rfl := hresume rfl
  obtain ⟨resume', hwalk', -, hkept⟩ :=
    walk_of_leadsTo hrest 1 (some (j + 2)) front.reverse (show 1 + hops ≤ 128 by omega)
  obtain rfl := hkept _ rfl
  rw [decoder, hwalk, List.append_nil, walk_of_pointer (element_of_pointsTo hpointer),
    if_neg (Nat.not_le.mpr hback), if_neg (by decide), Option.getD_none, hwalk',
    walk_of_stop (element_of_zero hzero), Option.getD_some, ← List.reverse_append,
    List.reverse_reverse]

/-- The labels of a walk that reaches a zero octet are a name. -/
lemma decoder_of_zero (h : LeadsTo p i labels hops k) (hhops : hops ≤ 128)
    (hzero : p[k]? = some 0) :
    ∃ j, decoder p i = .ok (⟨labels⟩, j) ∧ EndsInPlace p i j := by
  obtain rfl | ⟨front, back, j, target, n, rfl, rfl, hfront, hpointer, hback, hrest⟩ := h.first
  · obtain ⟨resume, hwalk, hresume, -⟩ := walk_of_leadsTo h 0 none [] (Nat.zero_le _)
    obtain rfl := hresume rfl
    refine ⟨k + 1, ?_, labels, k, h, Or.inl ⟨hzero, rfl⟩⟩
    rw [decoder, hwalk, walk_of_stop (element_of_zero hzero), List.append_nil,
      List.reverse_reverse, Option.getD_none]
  · exact ⟨j + 2, decoder_of_pointer hfront hpointer hback hrest hhops hzero, front, j, hfront,
      Or.inr ⟨target, hpointer, rfl⟩⟩

/-- A walk that comes to an obstacle is no name. -/
lemma decoder_of_obstacle (h : LeadsTo p i labels hops k) (hhops : hops ≤ 128)
    (hobstacle : Obstacle p k hops e) : decoder p i = .error e := by
  obtain ⟨resume, hwalk, -⟩ :=
    walk_of_leadsTo h 0 none [] (show 0 + hops ≤ 128 by rwa [Nat.zero_add])
  rw [decoder, hwalk, Nat.zero_add, walk_of_obstacle hobstacle]

/-- A walk that follows more pointers than it may is no name. -/
lemma decoder_of_many (h : LeadsTo p i labels hops k) (hhops : 128 < hops) :
    decoder p i = .error (.format .tooManyPointers) := by
  obtain ⟨labels', hops', k', hlead, hle, hend⟩ := exists_endsAt p i
  exact decoder_of_obstacle hlead hle (hlead.many hend h (Nat.lt_of_le_of_lt hle hhops))

/-- A walk that comes back to a pointer follows it again and again. -/
lemma LeadsTo.rounds (h : LeadsTo p k labels (hops + 1) k) (n : Nat) :
    ∃ labels' hops', LeadsTo p k labels' hops' k ∧ n ≤ hops' := by
  induction n with
  | zero => exact ⟨[], 0, .here, Nat.le_refl 0⟩
  | succ n ih =>
    obtain ⟨labels', hops', hlead, hle⟩ := ih
    exact ⟨labels ++ labels', hops + 1 + hops', h.trans hlead, by omega⟩

/-! ### Turns -/

/-- Where reading a name stands: at a position, after so many pointers, with the position behind the
first of them and the labels that were met, reversed. -/
structure Stage where
  position : Nat
  hops : Nat := 0
  resume : Option Nat := none
  done : List Label := []

/-- One turn: reads what stands at the position, and goes on or comes to a result. -/
def Stage.turn (p : Packet) (s : Stage) : Stage ⊕ Except Error (Name × Nat) :=
  match element p s.position with
  | .error e => .inr (.error e)
  | .ok .stop => .inr (.ok (⟨s.done.reverse⟩, s.resume.getD (s.position + 1)))
  | .ok (.label l) => .inl { s with position := s.position + l.wireLength, done := l :: s.done }
  | .ok (.pointer target) =>
    if s.position ≤ target then .inr (.error (.format (.forwardPointer s.position target)))
    else if maxPointers ≤ s.hops then .inr (.error (.format .tooManyPointers))
    else .inl { s with
      position := target
      hops := s.hops + 1
      resume := some (s.resume.getD (s.position + 2)) }

/-- The result that is there after at most so many turns, if there is one. -/
def Stage.run? (p : Packet) : Nat → Stage → Option (Except Error (Name × Nat))
  | 0, _ => none
  | n + 1, s =>
    match s.turn p with
    | .inl s => s.run? p n
    | .inr r => some r

/-- What is read from a stage on. -/
def Stage.result (p : Packet) (s : Stage) : Except Error (Name × Nat) :=
  walk p s.position s.hops s.resume s.done

/-- The number of turns that may be left: for each pointer that may still be followed, one for each
position, and those for the positions ahead. -/
def Stage.turnsLeft (p : Packet) (s : Stage) : Nat :=
  (128 - s.hops) * (p.size + 1) + (p.size - s.position) + 1

variable {s s' : Stage} {r : Except Error (Name × Nat)}

lemma result_of_turn_inr (h : s.turn p = .inr r) : s.result p = r := by
  unfold Stage.turn at h
  unfold Stage.result
  split at h
  next e helement =>
    cases h
    exact walk_of_error helement
  next helement =>
    cases h
    exact walk_of_stop helement
  next l helement => cases h
  next target helement =>
    rw [walk_of_pointer helement]
    split_ifs at h ⊢ <;> cases h <;> rfl

/-- A turn that goes on keeps what is read, and leaves fewer turns. -/
lemma of_turn_inl (h : s.turn p = .inl s') (hhops : s.hops ≤ 128) :
    s'.hops ≤ 128 ∧ s'.result p = s.result p ∧ s'.turnsLeft p < s.turnsLeft p := by
  unfold Stage.turn at h
  unfold Stage.result Stage.turnsLeft
  split at h
  next e helement => cases h
  next helement => cases h
  next l helement =>
    cases h
    have hlt := lt_size_of_element helement
    have hpos := l.wireLength_pos
    refine ⟨hhops, (walk_of_label helement).symm, ?_⟩
    dsimp only
    omega
  next target helement =>
    split_ifs at h with hforward hmany
    cases h
    have hlt := lt_size_of_element helement
    have hmore : s.hops < 128 := Nat.not_le.mp hmany
    -- All positions may lie ahead again, which the pointer that is used up pays for.
    refine ⟨hmore, ?_, ?_⟩
    · rw [walk_of_pointer helement, if_neg hforward, if_neg hmany]
    · have hfewer : 128 - s.hops = 128 - (s.hops + 1) + 1 := by omega
      dsimp only
      rw [hfewer, Nat.succ_mul]
      omega

/-- What is read is there as soon as no turns are left. -/
lemma run?_of_turnsLeft_le {n : Nat} (hhops : s.hops ≤ 128) (hn : s.turnsLeft p ≤ n) :
    s.run? p n = some (s.result p) := by
  induction n generalizing s with
  | zero => exact (Nat.not_succ_le_zero _ hn).elim
  | succ n ih =>
    rw [Stage.run?]
    cases hturn : s.turn p with
    | inl s' =>
      obtain ⟨hhops', hresult, hfewer⟩ := of_turn_inl hturn hhops
      rw [← hresult]
      exact ih hhops' (by omega)
    | inr r => rw [result_of_turn_inr hturn]

lemma run?_eq_decoder (p : Packet) (i : Nat) :
    Stage.run? p (129 * (p.size + 1)) { position := i } = some (decoder p i) := by
  refine run?_of_turnsLeft_le (Nat.zero_le _) ?_
  simp only [Stage.turnsLeft]
  omega

/-- A name is read by recursion on a number of turns, which is how it is evaluated. -/
lemma decoder_eq_run : decoder = fun p i =>
    (Stage.run? p (129 * (p.size + 1)) { position := i }).getD (.error (.format .shortInput)) := by
  funext p i
  rw [run?_eq_decoder, Option.getD_some]

/-- What reading a name from a position does. -/
structure IsWalked (p : Packet) (i : Nat) : Prop where
  run?_eq : Stage.run? p (129 * (p.size + 1)) { position := i } = some (decoder p i)
  ok_iff : ∀ n, (∃ j, decoder p i = .ok (n, j)) ↔
    ∃ hops k, LeadsTo p i n.labels hops k ∧ hops ≤ 128 ∧ p[k]? = some 0
  resumes : ∀ n j, decoder p i = .ok (n, j) → EndsInPlace p i j ∧ i < j ∧ j ≤ p.size
  error_iff : ∀ e, decoder p i = .error e ↔
    ∃ labels hops k, LeadsTo p i labels hops k ∧ hops ≤ 128 ∧ Obstacle p k hops e
  repeated : ∀ labels hops k labels' hops', LeadsTo p i labels hops k →
    LeadsTo p k labels' (hops' + 1) k → decoder p i = .error (.format .tooManyPointers)

lemma exists_zero_of_decoder {name : Name} (h : decoder p i = .ok (name, j)) :
    EndsInPlace p i j
      ∧ ∃ hops k, LeadsTo p i name.labels hops k ∧ hops ≤ 128 ∧ p[k]? = some 0 := by
  obtain ⟨labels, hops, k, hlead, hhops, hzero | ⟨e, hobstacle⟩⟩ := exists_endsAt p i
  · obtain ⟨j', hdecode, hplace⟩ := decoder_of_zero hlead hhops hzero
    cases h.symm.trans hdecode
    exact ⟨hplace, hops, k, hlead, hhops, hzero⟩
  · cases h.symm.trans (decoder_of_obstacle hlead hhops hobstacle)

lemma exists_obstacle_of_decoder (h : decoder p i = .error e) :
    ∃ labels hops k, LeadsTo p i labels hops k ∧ hops ≤ 128 ∧ Obstacle p k hops e := by
  obtain ⟨labels, hops, k, hlead, hhops, hzero | ⟨e', hobstacle⟩⟩ := exists_endsAt p i
  · obtain ⟨j, hdecode, -⟩ := decoder_of_zero hlead hhops hzero
    cases h.symm.trans hdecode
  · cases h.symm.trans (decoder_of_obstacle hlead hhops hobstacle)
    exact ⟨labels, hops, k, hlead, hhops, hobstacle⟩

/-- A name is read in a bounded number of turns. It is read exactly if the walk reaches a zero octet
behind at most 128 pointers, and otherwise the error says what stands in the way. -/
theorem isWalked (p : Packet) (i : Nat) : IsWalked p i where
  run?_eq := run?_eq_decoder p i
  ok_iff := by
    intro n
    constructor
    · rintro ⟨j, h⟩
      exact (exists_zero_of_decoder h).2
    · rintro ⟨hops, k, hlead, hhops, hzero⟩
      obtain ⟨j, hdecode, -⟩ := decoder_of_zero hlead hhops hzero
      exact ⟨j, hdecode⟩
  resumes := by
    intro n j h
    have hplace := (exists_zero_of_decoder h).1
    exact ⟨hplace, hplace.bounds⟩
  error_iff := by
    intro e
    constructor
    · exact exists_obstacle_of_decoder
    · rintro ⟨labels, hops, k, hlead, hhops, hobstacle⟩
      exact decoder_of_obstacle hlead hhops hobstacle
  repeated := by
    intro labels hops k labels' hops' hlead hback
    obtain ⟨labels'', hops'', hround, hle⟩ := hback.rounds 129
    exact decoder_of_many (hlead.trans hround) (by omega)

/-- A label that is followed by a pointer to itself. -/
def circle : Packet := #[1, 0x61, 0xC0, 0]

theorem isWalked_circle :
    LeadsTo circle 0 [.text [0x61]] 0 2 ∧ LeadsTo circle 2 [.text [0x61]] 1 2
      ∧ Stage.run? circle 645 { position := 0 } = some (.error (.format .tooManyPointers)) := by
  have hlabel : LeadsTo circle 0 [.text [0x61]] 0 2 := .label (by decide) (by decide) .here
  have hback : LeadsTo circle 2 [.text [0x61]] 1 2 :=
    .pointer ⟨by decide, by decide⟩ (by decide) hlabel
  have hwalked := isWalked circle 0
  refine ⟨hlabel, hback, ?_⟩
  rw [← hwalked.repeated _ _ _ _ _ hlabel hback]
  exact hwalked.run?_eq

end Name

end StubResolver
