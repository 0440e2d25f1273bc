import StubResolver.Proofs.Name.Walk

/-!
# Compression

Where labels are followed by a compression pointer, the name that is read has these labels in front
of those that are read at the target of the pointer. One more pointer is followed for it, so that a
name that is read only behind the last pointer that is allowed cannot be pointed to.
-/

namespace StubResolver

open Packet

namespace Name

variable {p : Packet} {i j k target hops : Nat} {labels : List Label} {n : Name} {e : Error}

/-- A name is read at a position behind so many pointers. -/
def IsReadBehind (p : Packet) (i : Nat) (n : Name) (hops : Nat) : Prop :=
  (∃ j, decoder p i = .ok (n, j)) ∧ ∃ k, LeadsTo p i n.labels hops k ∧ p[k]? = some 0

/-- What stands in the way of a walk that may follow more pointers stands in the way of others. -/
lemma Obstacle.of_lt (h : Obstacle p k hops e) (hlt : hops < 128) {hops' : Nat} :
    Obstacle p k hops' e := by
  cases h with
  | short h => exact .short h
  | mark hmark hb => exact .mark hmark hb
  | forward hpointer hforward => exact .forward hpointer hforward
  | many _ _ hhops => exact (Nat.ne_of_lt hlt hhops).elim

/-- Labels that are followed by a pointer. -/
structure IsCompressed (p : Packet) (i : Nat) (labels : List Label) (target : Nat) : Prop where
  isValid : ∀ l ∈ labels, l.IsValid
  target_le : target ≤ 0x3FFF
  holds : Holds p i (labels.flatMap Label.encode ++ pointerTo target)
  target_lt : target < i + (labels.flatMap Label.encode).length

namespace IsCompressed

lemma leadsTo (h : IsCompressed p i labels target) :
    LeadsTo p i labels 0 (i + (labels.flatMap Label.encode).length) :=
  leadsTo_of_holds h.isValid (holds_append.mp h.holds).1

lemma pointsTo (h : IsCompressed p i labels target) :
    PointsTo p (i + (labels.flatMap Label.encode).length) target :=
  ⟨h.target_le, (holds_append.mp h.holds).2⟩

/-- The walk goes on from the target with one more pointer. -/
lemma leadsTo_trans (h : IsCompressed p i labels target) {labels' : List Label}
    (h' : LeadsTo p target labels' hops k) : LeadsTo p i (labels ++ labels') (hops + 1) k := by
  have hlead := h.leadsTo.trans (.pointer h.pointsTo h.target_lt h')
  rwa [Nat.zero_add] at hlead

end IsCompressed

lemma exists_isReadBehind {j : Nat} (h : decoder p i = .ok (n, j)) :
    ∃ hops, hops ≤ 128 ∧ IsReadBehind p i n hops := by
  obtain ⟨-, hops, k, hlead, hhops, hzero⟩ := exists_zero_of_decoder h
  exact ⟨hops, hhops, ⟨j, h⟩, k, hlead, hzero⟩

/-- A name that is read behind less than 128 pointers can be pointed to. The labels in front of the
pointer are put in front of its own, and reading resumes behind the pointer. Where the name takes
all 128 pointers, or none can be read at the target, none can be read at the labels either. -/
theorem decoder_of_isCompressed (h : IsCompressed p i labels target) :
    (∀ n j, decoder p target = .ok (n, j) → ∃ hops, hops ≤ 128 ∧ IsReadBehind p target n hops)
      ∧ (∀ n hops, IsReadBehind p target n hops → hops ≤ 127 →
        decoder p i = .ok (⟨labels ++ n.labels⟩, i + (labels.flatMap Label.encode).length + 2))
      ∧ (∀ n, IsReadBehind p target n 128 → decoder p i = .error (.format .tooManyPointers))
      ∧ ∀ e, decoder p target = .error e →
        decoder p i = .error e ∨ decoder p i = .error (.format .tooManyPointers) := by
  refine ⟨fun n j => exists_isReadBehind, ?_, ?_, ?_⟩
  · rintro n hops ⟨-, k, hlead, hzero⟩ hhops
    exact decoder_of_pointer h.leadsTo h.pointsTo h.target_lt hlead (Nat.lt_succ_of_le hhops) hzero
  · rintro n ⟨-, k, hlead, -⟩
    exact decoder_of_many (h.leadsTo_trans hlead) (by decide)
  · intro e he
    obtain ⟨labels', hops, k, hlead, hhops, hobstacle⟩ := exists_obstacle_of_decoder he
    have hlead := h.leadsTo_trans hlead
    rcases Nat.lt_or_eq_of_le hhops with hlt | rfl
    · exact Or.inl (decoder_of_obstacle hlead hlt (hobstacle.of_lt hlt))
    · exact Or.inr (decoder_of_many hlead (by decide))

/-- Three names, of which each but the first points to the one before it. -/
def nested : Packet :=
  #[3, 0x63, 0x6F, 0x6D, 0, 7, 0x65, 0x78, 0x61, 0x6D, 0x70, 0x6C, 0x65, 0xC0, 0, 0x41, 3, 0xA0,
    3, 0x77, 0x77, 0x77, 0xC0, 5, 1]

/-- The label `com`. -/
def com : Label := .text [0x63, 0x6F, 0x6D]

/-- The label `example`. -/
def exampleLabel : Label := .text [0x65, 0x78, 0x61, 0x6D, 0x70, 0x6C, 0x65]

theorem decoder_of_isCompressed_nested :
    IsCompressed nested 15 [.bits [0xA0] 3, .text [0x77, 0x77, 0x77]] 5
      ∧ IsReadBehind nested 5 ⟨[exampleLabel, com]⟩ 1
      ∧ decoder nested 15
        = .ok (⟨[.bits [0xA0] 3, .text [0x77, 0x77, 0x77], exampleLabel, com]⟩, 24) := by
  have hcompressed : IsCompressed nested 15 [.bits [0xA0] 3, .text [0x77, 0x77, 0x77]] 5 :=
    ⟨by decide, by decide, by decide, by decide⟩
  have hcom : LeadsTo nested 0 [com] 0 4 := .label (by decide) (by decide) .here
  have hlead : LeadsTo nested 5 [exampleLabel, com] 1 4 :=
    .label (by decide) (by decide) (.pointer ⟨by decide, by decide⟩ (by decide) hcom)
  obtain ⟨j, hdecode, -⟩ := decoder_of_zero hlead (by decide) rfl
  have hread : IsReadBehind nested 5 ⟨[exampleLabel, com]⟩ 1 := ⟨⟨j, hdecode⟩, 4, hlead, rfl⟩
  obtain ⟨-, hname, -⟩ := decoder_of_isCompressed hcompressed
  exact ⟨hcompressed, hread, hname _ 1 hread (by decide)⟩

end Name

end StubResolver
