import StubResolver.Proofs.Wire.Result
import StubResolver.Resolver.Selection

/-!
# What is selected

Whatever is selected from the results of attempts is the response of one of them. A race that ends
early selects what is selected once all results are there, and the rank of the response that wins
does not depend on the order in which they arrive.
-/

namespace StubResolver.Selection

variable {m : Message} {responses seen : List Message} {failed : List Error}
  {results results' : List (Except Error Message)} {e : Error}

lemma mem_of_best? (h : best? responses = some m) : m ∈ responses := by
  simp only [best?, Option.or_eq_some_iff] at h
  rcases h with h | ⟨-, h | ⟨-, h⟩⟩
  · exact List.mem_of_find?_eq_some h
  · exact List.mem_of_find?_eq_some h
  · exact List.mem_of_head? h

lemma mem_of_select (h : select responses failed = .ok m) : m ∈ responses := by
  unfold select at h
  split at h
  next m' hbest =>
    cases h
    exact mem_of_best? hbest
  next => cases h

@[simp] lemma mem_responses {α : Type} {a : α} {results : List (Except Error α)} :
    a ∈ Selection.responses results ↔ .ok a ∈ results := by
  simp only [Selection.responses, List.mem_filterMap, toOption_eq_some_iff, exists_eq_right]

/-- A race ends with a response that was seen before or that arrives. -/
lemma mem_of_raceOnto (h : raceOnto seen failed results = .ok m) :
    m ∈ seen ∨ .ok m ∈ results := by
  induction results generalizing seen failed with
  | nil =>
    rw [raceOnto] at h
    exact Or.inl (List.mem_reverse.mp (mem_of_select h))
  | cons result rest ih =>
    cases result with
    | ok m' =>
      rw [raceOnto] at h
      split_ifs at h with herror
      · cases h
        exact Or.inr (List.mem_cons_self ..)
      · rcases ih h with hseen | hrest
        · rcases List.mem_cons.mp hseen with rfl | hseen
          · exact Or.inr (List.mem_cons_self ..)
          · exact Or.inl hseen
        · exact Or.inr (List.mem_cons_of_mem _ hrest)
    | error e =>
      rw [raceOnto] at h
      rcases ih h with hseen | hrest
      · exact Or.inl hseen
      · exact Or.inr (List.mem_cons_of_mem _ hrest)

lemma mem_of_race (h : race results = .ok m) : .ok m ∈ results := by
  rcases mem_of_raceOnto h with hseen | hresults
  · cases hseen
  · exact hresults

lemma mem_of_collect {collected : List Message} (h : collect results = .ok collected)
    (hm : m ∈ collected) : .ok m ∈ results := by
  unfold collect at h
  split at h
  · cases h
  · cases h
    exact mem_responses.mp hm

lemma ne_nil_of_collect {collected : List Message} (h : collect results = .ok collected) :
    collected ≠ [] := by
  unfold collect at h
  split at h
  · cases h
  next hne =>
    cases h
    exact hne

lemma mem_of_pick (h : pick results = .ok m) : .ok m ∈ results :=
  mem_responses.mp (mem_of_select h)

/-! ### The rank of what is selected -/

lemma best?_eq_none_iff : best? responses = none ↔ responses = [] := by
  cases responses <;> simp [best?]

lemma select_eq_error_iff :
    select responses failed = .error e ↔ responses = [] ∧ e = .aggregate failed := by
  unfold select
  split
  next m hbest =>
    simp only [reduceCtorEq, false_iff, not_and]
    rintro rfl
    cases hbest
  next hbest => simp [best?_eq_none_iff.mp hbest, eq_comm]

lemma select_eq_ok_iff : select responses failed = .ok m ↔ best? responses = some m := by
  unfold select
  split <;> simp_all

lemma exists_select_isNoError_iff :
    (∃ m, select responses failed = .ok m ∧ m.isNoError)
      ↔ ∃ m ∈ responses, m.isNoError := by
  constructor
  · rintro ⟨m, hm, herror⟩
    exact ⟨m, mem_of_select hm, herror⟩
  · intro hexists
    obtain ⟨m, hm⟩ := Option.isSome_iff_exists.mp (List.find?_isSome.mpr hexists)
    exact ⟨m, select_eq_ok_iff.mpr (by simp [best?, hm]), List.find?_some hm⟩

/-- Among responses with errors, one with answers is selected as soon as there is one. -/
lemma exists_select_hasAnswers_iff (hnone : ∀ m ∈ responses, m.isNoError = false) :
    (∃ m, select responses failed = .ok m ∧ m.hasAnswers)
      ↔ ∃ m ∈ responses, m.hasAnswers := by
  constructor
  · rintro ⟨m, hm, hanswers⟩
    exact ⟨m, mem_of_select hm, hanswers⟩
  · intro hexists
    have hfind : responses.find? Message.isNoError = none := by
      simpa [List.find?_eq_none] using hnone
    obtain ⟨m, hm⟩ := Option.isSome_iff_exists.mp (List.find?_isSome.mpr hexists)
    exact ⟨m, select_eq_ok_iff.mpr (by simp [best?, hfind, hm]), List.find?_some hm⟩

/-! ### Races -/

lemma responses_eq_nil_iff :
    Selection.responses results = [] ↔ ∀ r ∈ results, ∃ e, r = .error e := by
  rw [List.eq_nil_iff_forall_not_mem]
  simp only [mem_responses]
  constructor
  · rintro hnone (e | m) hr
    · exact ⟨e, rfl⟩
    · exact (hnone m hr).elim
  · intro hall m hm
    obtain ⟨e, he⟩ := hall _ hm
    cases he

@[simp] lemma mem_errors {α : Type} {results : List (Except Error α)} :
    e ∈ errors results ↔ .error e ∈ results := by
  rw [errors, List.mem_filterMap]
  constructor
  · rintro ⟨a | e', hmem, h⟩
    · cases h
      exact hmem
    · cases h
  · intro hmem
    exact ⟨_, hmem, rfl⟩

lemma errorOf?_eq_some_iff {α : Type} {result : Except Error α} :
    errorOf? result = some e ↔ result = .error e := by
  cases result <;> simp [errorOf?]

/-- Results that are all errors are these errors, in their order. -/
lemma forall_error_iff {α : Type} {results : List (Except Error α)} {es : List Error} :
    List.Forall₂ (fun r e => r = .error e) results es
      ↔ (∀ r ∈ results, ∃ e, r = .error e) ∧ es = errors results := by
  induction results generalizing es with
  | nil => simp [errors]
  | cons result rest ih =>
    rw [List.forall₂_cons_left_iff, List.forall_mem_cons]
    constructor
    · rintro ⟨e, es, rfl, hrest, rfl⟩
      obtain ⟨hall, rfl⟩ := ih.mp hrest
      exact ⟨⟨⟨e, rfl⟩, hall⟩, rfl⟩
    · rintro ⟨⟨⟨e, rfl⟩, hall⟩, rfl⟩
      exact ⟨e, errors rest, rfl, ih.mpr ⟨hall, rfl⟩, rfl⟩

/-- Nothing is picked exactly if all results are errors. -/
lemma pick_eq_error_iff :
    pick results = .error e ↔ ∃ causes, List.Forall₂ (fun r e => r = .error e) results causes
      ∧ e = .aggregate causes := by
  simp only [pick, select_eq_error_iff, responses_eq_nil_iff, forall_error_iff, and_assoc,
    exists_and_left, exists_eq_left]

/-- The first response without an error is the best, whatever follows. -/
lemma best?_append_cons {before after : List Message} (hbefore : ∀ m ∈ before, m.isNoError = false)
    (hm : m.isNoError = true) : best? (before ++ m :: after) = some m := by
  have hfind : before.find? Message.isNoError = none := by
    simpa [List.find?_eq_none] using hbefore
  simp [best?, List.find?_append, hfind, hm]

/-- A race that goes on after responses with errors selects from these and from all results. -/
lemma raceOnto_eq_select (hseen : ∀ m ∈ seen, m.isNoError = false) :
    raceOnto seen failed results
      = select (seen.reverse ++ Selection.responses results)
        (failed ++ (errors results).flatMap Error.causes) := by
  -- The responses seen so far report errors, so that one without an error beats them all.
  induction results generalizing seen failed with
  | nil => simp [raceOnto, Selection.responses, errors]
  | cons result rest ih =>
    cases result with
    | ok m =>
      cases hm : m.isNoError with
      | true =>
        have hbest : best? (seen.reverse ++ m :: Selection.responses rest) = some m :=
          best?_append_cons (by simpa using hseen) hm
        rw [raceOnto, if_pos hm]
        exact (select_eq_ok_iff.mpr hbest).symm
      | false =>
        rw [raceOnto, if_neg (by simp [hm]), ih (List.forall_mem_cons.mpr ⟨hm, hseen⟩),
          List.reverse_cons, List.append_assoc]
        rfl
    | error e =>
      rw [raceOnto, ih hseen, List.append_assoc]
      rfl

/-- A race selects what is selected once all results are there. -/
lemma race_eq_select :
    race results
      = select (Selection.responses results) ((errors results).flatMap Error.causes) := by
  have h : raceOnto [] [] results = select ([].reverse ++ Selection.responses results)
      ([] ++ (errors results).flatMap Error.causes) := raceOnto_eq_select (by simp)
  exact h

lemma race_eq_collect_bind : race results = collect results >>= fun ms => select ms [] := by
  rw [race_eq_select, collect]
  split
  next hnil =>
    rw [hnil]
    rfl
  next hne =>
    rw [ok_bind]
    unfold select
    cases hbest : best? (Selection.responses results) with
    | none => exact (hne (best?_eq_none_iff.mp hbest)).elim
    | some m => rfl

/-- A race fails exactly if all results are errors, and then collects these. -/
lemma race_eq_error_iff :
    race results = .error e ↔ (∀ r ∈ results, ∃ e, r = .error e)
      ∧ e = .aggregate ((errors results).flatMap Error.causes) := by
  rw [race_eq_select, select_eq_error_iff, responses_eq_nil_iff]

/-! ### The order of arrival -/

lemma exists_race_ok_iff : (∃ m, race results = .ok m) ↔ ∃ m, .ok m ∈ results := by
  constructor
  · rintro ⟨m, hm⟩
    exact ⟨m, mem_of_race hm⟩
  · rintro ⟨m, hm⟩
    cases hrace : race results with
    | ok m' => exact ⟨m', rfl⟩
    | error e =>
      obtain ⟨e', he'⟩ := (race_eq_error_iff.mp hrace).1 _ hm
      cases he'

lemma exists_race_isNoError_iff :
    (∃ m, race results = .ok m ∧ m.isNoError) ↔ ∃ m, .ok m ∈ results ∧ m.isNoError := by
  simp only [race_eq_select, exists_select_isNoError_iff, mem_responses]

lemma exists_race_hasAnswers_iff (hnone : ∀ m, .ok m ∈ results → m.isNoError = false) :
    (∃ m, race results = .ok m ∧ m.hasAnswers) ↔ ∃ m, .ok m ∈ results ∧ m.hasAnswers := by
  have hresponses : ∀ m ∈ Selection.responses results, m.isNoError = false :=
    fun m hm => hnone m (mem_responses.mp hm)
  simp only [race_eq_select, exists_select_hasAnswers_iff hresponses, mem_responses]

lemma perm_causes (h : results.Perm results') :
    ((errors results).flatMap Error.causes).Perm ((errors results').flatMap Error.causes) :=
  (h.filterMap errorOf?).flatMap_right Error.causes

end StubResolver.Selection
