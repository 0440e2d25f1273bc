import StubResolver.Proofs.Resolver.Preflight
import StubResolver.Proofs.Resolver.Race

/-!
# Trying search suffixes

A search asks all servers for the name with each suffix, and the suffixes count in their order,
whichever is done first. The response that a suffix gives has the rank of the best response that
was accepted for it, so that the choice among servers never hides what the choice among suffixes
looks for.
-/

namespace StubResolver

namespace Selection

variable {m : Message} {results : List (Except Error Message)} {p : Message → Bool}

/-! ### The first response of a kind -/

/-- The first response of a kind comes from a result in front of which there is none. -/
lemma find?_responses_eq_some (h : (Selection.responses results).find? p = some m) :
    ∃ i : Nat, results[i]? = some (.ok m) ∧ p m = true ∧
      ∀ j < i, ∀ m', results[j]? = some (.ok m') → p m' = false := by
  induction results with
  | nil => cases h
  | cons result results ih =>
    cases result with
    | error e =>
      obtain ⟨i, hi, hm, hbefore⟩ := ih h
      refine ⟨i + 1, hi, hm, ?_⟩
      rintro (_ | j) hj m' hm'
      · cases hm'
      · exact hbefore j (Nat.lt_of_succ_lt_succ hj) m' hm'
    | ok m₀ =>
      have hresponses : Selection.responses (.ok m₀ :: results)
          = m₀ :: Selection.responses results := rfl
      rw [hresponses, List.find?_cons] at h
      split at h
      next hfirst =>
        cases h
        exact ⟨0, rfl, hfirst, fun j hj => absurd hj (Nat.not_lt_zero j)⟩
      next hfirst =>
        obtain ⟨i, hi, hm, hbefore⟩ := ih h
        refine ⟨i + 1, hi, hm, ?_⟩
        rintro (_ | j) hj m' hm'
        · cases hm'
          exact hfirst
        · exact hbefore j (Nat.lt_of_succ_lt_succ hj) m' hm'

lemma find?_responses_eq_none (h : (Selection.responses results).find? p = none) {i : Nat}
    (hm : results[i]? = some (.ok m)) : p m = false := by
  have hmem : m ∈ Selection.responses results := mem_responses.mpr (List.mem_of_getElem? hm)
  exact Bool.eq_false_iff.mpr (List.find?_eq_none.mp h m hmem)

end Selection

namespace Resolver

variable {config : Config} {s : Nat → Surroundings} {query : Query} {i : Nat} {m : Message}
  {p : Message → Bool}

/-! ### What is accepted for a suffix -/

/-- The query for a name with a search suffix behind it. -/
def suffixed (query : Query) (suffix : Name) : Query := query.withName (query.name.join suffix)

/-- What comes of resolving the name with each suffix. -/
def suffixResults (config : Config) (s : Nat → Surroundings) (query : Query) :
    List (Except Error Message) :=
  config.search.mapIdx fun i suffix => (resolve config (s i) (suffixed query suffix)).result

/-- A response is accepted from one of the servers for the name with the suffix with a number. -/
def AcceptedFor (config : Config) (s : Nat → Surroundings) (query : Query) (i : Nat)
    (m : Message) : Prop :=
  ∃ suffix c k server, config.search[i]? = some suffix ∧
    Call.prepare config (suffixed query suffix) = .ok c ∧
    config.endpoints[k]? = some server ∧ (c.launch (s i) k server).result = .ok m

lemma suffixResults_eq_some_iff {r : Except Error Message} :
    (suffixResults config s query)[i]? = some r ↔ ∃ suffix, config.search[i]? = some suffix ∧
      (resolve config (s i) (suffixed query suffix)).result = r := by
  simp [suffixResults]

/-- A suffix gives what a race selects among the responses that are accepted for it. Where there is
no such suffix or its query is refused, the race has nothing to select from. -/
lemma exists_race (hs : ∀ i, (s i).Reports config.servers.length) (query : Query) (i : Nat) :
    ∃ results, (∀ m, AcceptedFor config s query i m ↔ .ok m ∈ results) ∧
      ∀ m, (suffixResults config s query)[i]? = some (.ok m) ↔ Selection.race results = .ok m := by
  have hnothing : ∀ m, ¬ Selection.race [] = .ok m := by
    intro m h
    cases Selection.mem_of_race h
  simp only [suffixResults_eq_some_iff]
  cases hsuffix : config.search[i]? with
  | none => exact ⟨[], by simp [AcceptedFor, hsuffix], by simp [hnothing]⟩
  | some suffix =>
    cases hprepare : Call.prepare config (suffixed query suffix) with
    | error e =>
      have hresult : (resolve config (s i) (suffixed query suffix)).result = .error e := by
        rw [resolve_of_refused hprepare, Run.ofResult]
      exact ⟨[], by simp [AcceptedFor, hsuffix, hprepare], by simp [hresult, hnothing]⟩
    | ok c =>
      have hconfig : c.config = config := (Call.of_prepare hprepare).1
      have hreports : (s i).Reports c.config.servers.length := hconfig ▸ hs i
      refine ⟨c.results (s i), fun m => ?_, fun m => ?_⟩
      · simp [AcceptedFor, hsuffix, hprepare, Call.ok_mem_results_iff hreports, hconfig]
      · simp [resolve_of_prepare hprepare]

/-! ### The earliest suffix -/

/-- No response of a kind is accepted for any suffix. -/
def NoneAccepted (config : Config) (s : Nat → Surroundings) (query : Query)
    (p : Message → Bool) : Prop :=
  ∀ i m, AcceptedFor config s query i m → p m = false

/-- A response is accepted for a suffix and given for it, and it is of a kind that is accepted for
no earlier suffix. -/
def IsEarliest (config : Config) (s : Nat → Surroundings) (query : Query) (p : Message → Bool)
    (m : Message) : Prop :=
  ∃ i, AcceptedFor config s query i m ∧ (suffixResults config s query)[i]? = some (.ok m) ∧
    p m = true ∧ ∀ j < i, ∀ m', AcceptedFor config s query j m' → p m' = false

/-- Each suffix gives a response of a kind exactly if one of that kind is accepted for it. -/
def Keeps (config : Config) (s : Nat → Surroundings) (query : Query) (p : Message → Bool) : Prop :=
  ∀ i, (∃ m, (suffixResults config s query)[i]? = some (.ok m) ∧ p m = true) ↔
    ∃ m, AcceptedFor config s query i m ∧ p m = true

section Kinds

variable (hs : ∀ i, (s i).Reports config.servers.length)
include hs

lemma acceptedFor_of_suffixResults (h : (suffixResults config s query)[i]? = some (.ok m)) :
    AcceptedFor config s query i m := by
  obtain ⟨results, haccepted, hresult⟩ := exists_race hs query i
  exact (haccepted m).mpr (Selection.mem_of_race ((hresult m).mp h))

lemma keeps_isNoError : Keeps config s query Message.isNoError := by
  intro i
  obtain ⟨results, haccepted, hresult⟩ := exists_race hs query i
  simp only [haccepted, hresult]
  exact Selection.exists_race_isNoError_iff

lemma keeps_hasAnswers (hnone : NoneAccepted config s query Message.isNoError) :
    Keeps config s query Message.hasAnswers := by
  intro i
  obtain ⟨results, haccepted, hresult⟩ := exists_race hs query i
  simp only [haccepted, hresult]
  exact Selection.exists_race_hasAnswers_iff fun m hm => hnone i m ((haccepted m).mpr hm)

lemma keeps_all (query : Query) : Keeps config s query fun _ => true := by
  intro i
  obtain ⟨results, haccepted, hresult⟩ := exists_race hs query i
  simp only [haccepted, hresult, and_true]
  exact Selection.exists_race_ok_iff

lemma isEarliest_of_find? (hkeeps : Keeps config s query p)
    (h : (Selection.responses (suffixResults config s query)).find? p = some m) :
    IsEarliest config s query p m := by
  obtain ⟨i, hi, hm, hbefore⟩ := Selection.find?_responses_eq_some h
  refine ⟨i, acceptedFor_of_suffixResults hs hi, hi, hm, fun j hj m' hm' => ?_⟩
  -- A response of the kind for an earlier suffix would be given for that suffix.
  by_contra hkind
  obtain ⟨m'', hresult, hkind⟩ := (hkeeps j).mpr ⟨m', hm', by simpa using hkind⟩
  rw [hbefore j hj m'' hresult] at hkind
  cases hkind

omit hs in
/-- Among what all suffixes give there is a response of a kind exactly if one is accepted. -/
lemma Keeps.exists_mem_iff (hkeeps : Keeps config s query p) :
    (∃ m, .ok m ∈ suffixResults config s query ∧ p m = true) ↔
      ∃ i m, AcceptedFor config s query i m ∧ p m = true := by
  constructor
  · rintro ⟨m, hm, hkind⟩
    obtain ⟨i, hi⟩ := List.mem_iff_getElem?.mp hm
    exact ⟨i, (hkeeps i).mp ⟨m, hi, hkind⟩⟩
  · rintro ⟨i, haccepted⟩
    obtain ⟨m, hi, hkind⟩ := (hkeeps i).mpr haccepted
    exact ⟨m, List.mem_of_getElem? hi, hkind⟩

omit hs in
lemma noneAccepted_of_find? (hkeeps : Keeps config s query p)
    (h : (Selection.responses (suffixResults config s query)).find? p = none) :
    NoneAccepted config s query p := by
  intro i m hm
  by_contra hkind
  obtain ⟨m', hresult, hkind⟩ := (hkeeps i).mpr ⟨m, hm, by simpa using hkind⟩
  rw [Selection.find?_responses_eq_none h hresult] at hkind
  cases hkind

end Kinds

/-! ### Searches -/

/-- What a search does that tries suffixes. -/
structure PicksEarliest (config : Config) (s : Nat → Surroundings) (query : Query) : Prop where
  exchanges_eq : (resolveSearch config s query).exchanges = (config.search.mapIdx fun i suffix =>
    (resolve config (s i) (suffixed query suffix)).exchanges).flatten
  result_eq : (resolveSearch config s query).result
    = Selection.pick (suffixResults config s query)
  noError_iff : (∃ m, (resolveSearch config s query).result = .ok m ∧ m.isNoError) ↔
    ∃ i m, AcceptedFor config s query i m ∧ m.isNoError
  earliest : ∀ m, (resolveSearch config s query).result = .ok m →
    IsEarliest config s query Message.isNoError m ∨
      NoneAccepted config s query Message.isNoError ∧
        (IsEarliest config s query Message.hasAnswers m ∨
          NoneAccepted config s query Message.hasAnswers ∧
            IsEarliest config s query (fun _ => true) m)
  error_iff : (∃ e, (resolveSearch config s query).result = .error e) ↔
    ∀ i m, ¬ AcceptedFor config s query i m

lemma resolveSearch_eq (h : searches config query = true) :
    resolveSearch config s query = ⟨Selection.pick (suffixResults config s query),
      (config.search.mapIdx fun i suffix =>
        (resolve config (s i) (suffixed query suffix)).exchanges).flatten⟩ := by
  simp only [resolveSearch, h, if_true, Run.combine, suffixResults, suffixed, List.flatMap_def,
    List.mapIdx_eq_zipIdx_map, List.map_map, Function.comp_def]

lemma picked_cases (hs : ∀ i, (s i).Reports config.servers.length)
    (h : Selection.pick (suffixResults config s query) = .ok m) :
    IsEarliest config s query Message.isNoError m ∨
      NoneAccepted config s query Message.isNoError ∧
        (IsEarliest config s query Message.hasAnswers m ∨
          NoneAccepted config s query Message.hasAnswers ∧
            IsEarliest config s query (fun _ => true) m) := by
  have hbest := Selection.select_eq_ok_iff.mp h
  rw [Selection.best?, Option.or_eq_some_iff, Option.or_eq_some_iff] at hbest
  rcases hbest with hfind | ⟨hnone, hfind | ⟨hnone', hhead⟩⟩
  · exact .inl (isEarliest_of_find? hs (keeps_isNoError hs) hfind)
  · have hnoError := noneAccepted_of_find? (keeps_isNoError hs) hnone
    exact .inr ⟨hnoError, .inl (isEarliest_of_find? hs (keeps_hasAnswers hs hnoError) hfind)⟩
  · have hnoError := noneAccepted_of_find? (keeps_isNoError hs) hnone
    have hfirst : (Selection.responses (suffixResults config s query)).find? (fun _ => true)
        = some m := by
      rw [← hhead]
      cases Selection.responses (suffixResults config s query) <;> rfl
    exact .inr ⟨hnoError, .inr ⟨noneAccepted_of_find? (keeps_hasAnswers hs hnoError) hnone',
      isEarliest_of_find? hs (keeps_all hs query) hfirst⟩⟩

/-- A search gives the response of the earliest suffix that has one of the best rank, in whatever
order the attempts for each suffix end. It fails only if nothing is accepted for any suffix. -/
theorem picksEarliest_of_searches (hsingle : query.name.isSingleLabel = true)
    (hsearch : config.search ≠ []) (hs : ∀ i, (s i).Reports config.servers.length) :
    PicksEarliest config s query := by
  have hsearches : searches config query = true := by
    simp [searches, hsingle, hsearch]
  have hresult : (resolveSearch config s query).result
      = Selection.pick (suffixResults config s query) := by
    rw [resolveSearch_eq hsearches]
  refine ⟨by rw [resolveSearch_eq hsearches], hresult, ?_, ?_, ?_⟩
  · rw [hresult, ← (keeps_isNoError hs).exists_mem_iff, Selection.pick,
      Selection.exists_select_isNoError_iff]
    simp only [Selection.mem_responses]
  · intro m hm
    exact picked_cases hs (hresult ▸ hm)
  · have hnone := not_congr ((keeps_all hs query).exists_mem_iff)
    simp only [and_true, not_exists] at hnone
    simp only [hresult, Selection.pick, Selection.select_eq_error_iff, exists_and_left,
      exists_eq, and_true, ← hnone, List.eq_nil_iff_forall_not_mem, Selection.mem_responses]

/-- One server, asked by UDP alone, and two search suffixes, the first of which makes every query
too large. -/
def twoSuffixes : Config := { udpOnly with search := [longName, ⟨[.text [0x63, 0x6F, 0x6D]]⟩] }

/-- A response without records to the question for the addresses of a name. -/
def emptyResponse : Message where
  header := { id := 7, direction := .response }
  questions := [{ name := ⟨[.text [0x61], .text [0x63, 0x6F, 0x6D]]⟩ }]

/-- The server sends that response. -/
def answering : Surroundings where
  id := 7
  bits := fun _ _ _ => false
  reply := fun _ _ => .ok { octets := [0, 7, 0x80, 0, 0, 1, 0, 0, 0, 0, 0, 0,
    1, 0x61, 3, 0x63, 0x6F, 0x6D, 0, 0, 1, 0, 1] }
  order := [0]

lemma acceptedFor_twoSuffixes : ∃ m,
    AcceptedFor twoSuffixes (fun _ => answering) { name := ⟨[.text [0x61]]⟩ } 1 m
      ∧ m.isNoError = true := by
  let query : Query := { name := ⟨[.text [0x61], .text [0x63, 0x6F, 0x6D]]⟩ }
  let c : Call := ⟨twoSuffixes, query, true⟩
  let server : Endpoint := ⟨.v4 (.ofOctets 127 0 0 1), 53⟩
  let e : Exchange := c.exchange answering 0 server .udp
  let d : Delivery := { octets := [0, 7, 0x80, 0, 0, 1, 0, 0, 0, 0, 0, 0,
    1, 0x61, 3, 0x63, 0x6F, 0x6D, 0, 0, 1, 0, 1] }
  have hdecode : Message.decode d.octets = .ok emptyResponse :=
    Message.decode_of_encode (m := emptyResponse) ⟨by decide, by decide⟩ rfl
  have haccept : c.accept answering e d = .ok { emptyResponse with
      provenance :=
        some ⟨0, { seconds := 0 }, server, .udp, e.request.length, d.octets.length⟩ } := by
    rw [Call.accept, hdecode]
    rfl
  exact ⟨_, ⟨_, c, 0, server, rfl, rfl, rfl, haccept⟩, rfl⟩

theorem picksEarliest_twoSuffixes :
    let query : Query := { name := ⟨[.text [0x61]]⟩ }
    query.name.isSingleLabel = true ∧ twoSuffixes.search ≠ [] ∧
      answering.Reports twoSuffixes.servers.length ∧
      PicksEarliest twoSuffixes (fun _ => answering) query ∧
      (∃ e, (suffixResults twoSuffixes (fun _ => answering) query)[0]? = some (.error e)) ∧
      ∃ m, (resolveSearch twoSuffixes (fun _ => answering) query).result = .ok m ∧ m.isNoError := by
  intro query
  have hs : answering.Reports twoSuffixes.servers.length := by decide
  have hpicks : PicksEarliest twoSuffixes (fun _ => answering) query :=
    picksEarliest_of_searches rfl (by decide) fun _ => hs
  refine ⟨rfl, by decide, hs, hpicks, ⟨_, rfl⟩, ?_⟩
  obtain ⟨m, hm⟩ := acceptedFor_twoSuffixes
  exact hpicks.noError_iff.mpr ⟨1, m, hm⟩

end Resolver

end StubResolver
