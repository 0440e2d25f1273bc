import StubResolver.Proofs.Resolver.Failure
import StubResolver.Proofs.Resolver.Selection
import StubResolver.Resolver.Basic

/-!
# Racing servers

Servers that are asked at once report in any order. A race that ends with the first response
without an error gives what selection gives once all have reported, and the rank of its verdict is
the same for every order. If all attempts fail, their errors are reported in the order of arrival.
-/

namespace StubResolver

/-- Each of so many attempts ends, and ends once. -/
def Surroundings.Reports (s : Surroundings) (n : Nat) : Prop := s.order.Perm (List.range n)

instance (s : Surroundings) (n : Nat) : Decidable (s.Reports n) :=
  inferInstanceAs (Decidable (s.order.Perm (List.range n)))

lemma Config.getElem?_endpoints_eq_none_iff {config : Config} {i : Nat} :
    config.endpoints[i]? = none ↔ config.servers.length ≤ i := by
  simp [endpoints]

lemma Config.exists_endpoint {config : Config} {i : Nat} (h : i < config.servers.length) :
    ∃ server, config.endpoints[i]? = some server := by
  rw [← Option.ne_none_iff_exists', Ne, getElem?_endpoints_eq_none_iff]
  omega

lemma Config.lt_of_endpoint {config : Config} {i : Nat} {server : Endpoint}
    (h : config.endpoints[i]? = some server) : i < config.servers.length := by
  rw [← Nat.not_le, ← getElem?_endpoints_eq_none_iff, h]
  simp

namespace Call

variable {c : Call} {s s' : Surroundings}

/-! ### What arrives -/

/-- The results of the attempts, in the order in which they end. -/
def results (c : Call) (s : Surroundings) : List (Except Error Message) :=
  (c.attempts s).map (·.result)

/-- The result of the attempt with the server with a number beside others, if there is such a
server. -/
def outcome? (c : Call) (s : Surroundings) (i : Nat) : Option (Except Error Message) :=
  c.config.endpoints[i]?.map fun server => (c.launch s i server).result

lemma results_eq : c.results s = s.order.filterMap (c.outcome? s) := by
  simp only [results, attempts, List.map_filterMap, Option.map_map]
  rfl

/-- The attempts beside each other come to the same in two surroundings, which may differ in the
order in which the attempts end. -/
def SameOutcomes (c : Call) (s s' : Surroundings) : Prop :=
  ∀ i server, c.config.endpoints[i]? = some server →
    (c.launch s i server).result = (c.launch s' i server).result

lemma SameOutcomes.outcome?_eq (h : c.SameOutcomes s s') : c.outcome? s = c.outcome? s' :=
  funext fun i => Option.map_congr fun server hserver => h i server hserver

lemma results_perm {n : Nat} (hs : s.Reports n) (hs' : s'.Reports n) (h : c.SameOutcomes s s') :
    (c.results s).Perm (c.results s') := by
  -- What an attempt comes to hangs on its number alone, so the orders are all that differs.
  rw [results_eq, results_eq, ← h.outcome?_eq]
  exact (hs.trans hs'.symm).filterMap _

/-- What the attempt with the server with a number is blamed on. -/
def LostAt (c : Call) (s : Surroundings) (i : Nat) (causes : List Error) : Prop :=
  ∃ server, c.config.endpoints[i]? = some server ∧ c.Lost s i server causes

/-- The errors of attempts that all fail are collected in the order in which they arrive. -/
lemma lost_of_filterMap {order : List Nat}
    (h : ∀ i ∈ order, ∃ e, c.outcome? s i = some (.error e)) :
    ∃ causes, List.Forall₂ (c.LostAt s) order causes
      ∧ (Selection.errors (order.filterMap (c.outcome? s))).flatMap Error.causes
        = causes.flatten := by
  induction order with
  | nil => exact ⟨[], .nil, rfl⟩
  | cons i order ih =>
    obtain ⟨⟨e, he⟩, hrest⟩ := List.forall_mem_cons.mp h
    obtain ⟨causes, hlost, heq⟩ := ih hrest
    obtain ⟨server, hserver, hresult⟩ := Option.map_eq_some_iff.mp he
    refine ⟨e.causes :: causes, .cons ⟨server, hserver, lost_of_launch hresult⟩ hlost, ?_⟩
    rw [List.filterMap_cons_some he, List.flatten_cons, ← heq]
    rfl

lemma forall_mem_results_iff (hs : s.Reports c.config.servers.length)
    {P : Except Error Message → Prop} :
    (∀ r ∈ c.results s, P r)
      ↔ ∀ i server, c.config.endpoints[i]? = some server → P (c.launch s i server).result := by
  simp only [results, List.forall_mem_map, mem_attempts]
  constructor
  · intro h i server hserver
    have hi := hs.mem_iff.mpr (List.mem_range.mpr (Config.lt_of_endpoint hserver))
    exact h _ ⟨i, hi, server, hserver, rfl⟩
  · rintro h _ ⟨i, -, server, hserver, rfl⟩
    exact h i server hserver

lemma ok_mem_results_iff {m : Message} (hs : s.Reports c.config.servers.length) :
    .ok m ∈ c.results s ↔
      ∃ k server, c.config.endpoints[k]? = some server ∧ (c.launch s k server).result = .ok m := by
  have hnone := forall_mem_results_iff hs (P := fun r => r ≠ .ok m)
  have hmem : (∀ r ∈ c.results s, r ≠ .ok m) ↔ .ok m ∉ c.results s :=
    ⟨fun h hm => h _ hm rfl, fun h r hr heq => h (heq ▸ hr)⟩
  rw [← not_iff_not, ← hmem, hnone]
  simp only [ne_eq, not_exists, not_and]

lemma exists_outcome?_iff (hs : s.Reports c.config.servers.length) {p : Message → Prop} :
    (∃ k m, c.outcome? s k = some (.ok m) ∧ p m) ↔ ∃ m, .ok m ∈ c.results s ∧ p m := by
  simp only [ok_mem_results_iff hs, outcome?, Option.map_eq_some_iff]
  grind

/-- All attempts fail exactly if the race does, which then collects what they are blamed on. -/
lemma race_results_iff (hs : s.Reports c.config.servers.length) :
    (∀ r ∈ c.results s, ∃ e, r = .error e)
      ↔ ∃ causes, List.Forall₂ (c.LostAt s) s.order causes
        ∧ Selection.race (c.results s) = .error (.aggregate causes.flatten) := by
  constructor
  · intro hall
    have hfailed : ∀ i ∈ s.order, ∃ e, c.outcome? s i = some (.error e) := by
      intro i hi
      obtain ⟨server, hserver⟩ := Config.exists_endpoint (List.mem_range.mp (hs.mem_iff.mp hi))
      obtain ⟨e, he⟩ := (forall_mem_results_iff hs).mp hall i server hserver
      exact ⟨e, Option.map_eq_some_iff.mpr ⟨server, hserver, he⟩⟩
    obtain ⟨causes, hlost, heq⟩ := lost_of_filterMap hfailed
    refine ⟨causes, hlost, Selection.race_eq_error_iff.mpr ⟨hall, ?_⟩⟩
    rw [results_eq, heq]
  · rintro ⟨causes, -, hrace⟩
    exact (Selection.race_eq_error_iff.mp hrace).1

end Call

/-! ### The verdict -/

/-- Two results of a query agree in their rank: whether there is a response, one without an error,
or else one with answers, and which errors there are, in whatever order. -/
structure SameVerdict (r r' : Except Error Message) : Prop where
  ok_iff : (∃ m, r = .ok m) ↔ ∃ m, r' = .ok m
  noError_iff : (∃ m, r = .ok m ∧ m.isNoError) ↔ ∃ m, r' = .ok m ∧ m.isNoError
  hasAnswers_iff : (¬ ∃ m, r = .ok m ∧ m.isNoError) →
    ((∃ m, r = .ok m ∧ m.hasAnswers) ↔ ∃ m, r' = .ok m ∧ m.hasAnswers)
  causes_perm : ∀ causes, r = .error (.aggregate causes) →
    ∃ causes', r' = .error (.aggregate causes') ∧ causes.Perm causes'
  single_eq : ∀ e, e.isAggregate = false → r = .error e → r' = .error e

lemma SameVerdict.refl (r : Except Error Message) : SameVerdict r r :=
  ⟨Iff.rfl, Iff.rfl, fun _ => Iff.rfl, fun causes h => ⟨causes, h, .refl _⟩, fun _ _ h => h⟩

lemma Selection.sameVerdict_of_perm {results results' : List (Except Error Message)}
    (h : results.Perm results') : SameVerdict (race results) (race results') where
  ok_iff := by simp only [exists_race_ok_iff, h.mem_iff]
  noError_iff := by simp only [exists_race_isNoError_iff, h.mem_iff]
  hasAnswers_iff := by
    rw [exists_race_isNoError_iff]
    intro hnone
    have hnone : ∀ m, .ok m ∈ results → m.isNoError = false := by
      intro m hm
      exact Bool.eq_false_iff.mpr fun herror => hnone ⟨m, hm, herror⟩
    have hnone' : ∀ m, .ok m ∈ results' → m.isNoError = false :=
      fun m hm => hnone m (h.mem_iff.mpr hm)
    simp only [exists_race_hasAnswers_iff hnone, exists_race_hasAnswers_iff hnone', h.mem_iff]
  causes_perm := by
    intro causes hrace
    obtain ⟨hall, heq⟩ := race_eq_error_iff.mp hrace
    have hall' : ∀ r ∈ results', ∃ e, r = .error e := fun r hr => hall r (h.mem_iff.mpr hr)
    refine ⟨_, race_eq_error_iff.mpr ⟨hall', rfl⟩, ?_⟩
    rw [Error.aggregate.inj heq]
    exact perm_causes h
  single_eq := by
    intro e hsingle hrace
    obtain ⟨-, rfl⟩ := race_eq_error_iff.mp hrace
    cases hsingle

namespace Resolver

variable {config : Config} {query : Query} {s s' : Surroundings} {c : Call}

lemma resolve_of_prepare (h : Call.prepare config query = .ok c) :
    (resolve config s query).result = Selection.race (c.results s) := by
  simp only [resolve, h]
  rfl

lemma resolveAll_of_prepare (h : Call.prepare config query = .ok c) :
    (resolveAll config s query).result = Selection.collect (c.results s) := by
  simp only [resolveAll, h]
  rfl

/-- A race that ends early selects what is selected among all responses. -/
lemma resolve_eq_resolveAll_bind (config : Config) (s : Surroundings) (query : Query) :
    (resolve config s query).result
      = (resolveAll config s query).result >>= fun ms => Selection.select ms [] := by
  cases h : Call.prepare config query with
  | error e =>
    simp only [resolve, resolveAll, h]
    rfl
  | ok c => rw [resolve_of_prepare h, resolveAll_of_prepare h, Selection.race_eq_collect_bind]

lemma ne_nil_of_resolveAll {ms : List Message} (h : (resolveAll config s query).result = .ok ms) :
    ms ≠ [] := by
  cases hprepare : Call.prepare config query with
  | error e =>
    simp only [resolveAll, hprepare, Run.ofResult, reduceCtorEq] at h
  | ok c =>
    rw [resolveAll_of_prepare hprepare] at h
    exact Selection.ne_nil_of_collect h

lemma resolveAll_eq_error_iff {e : Error} :
    (resolveAll config s query).result = .error e ↔ (resolve config s query).result = .error e := by
  rw [resolve_eq_resolveAll_bind, except_bind_eq_error_iff]
  constructor
  · exact Or.inl
  · rintro (h | ⟨ms, hms, h⟩)
    · exact h
    · obtain ⟨rfl, -⟩ := Selection.select_eq_error_iff.mp h
      exact (ne_nil_of_resolveAll hms rfl).elim

/-- Whatever the order in which the servers report, the race gives what is selected among all
responses, it fails if nothing is accepted and reports each server's errors in the order of
arrival, and its verdict is that of every other order. -/
theorem resolve_of_arrivals (config : Config) (query : Query) :
    (∀ s, (resolve config s query).result
        = (resolveAll config s query).result >>= fun ms => Selection.select ms [])
      ∧ (∀ c, Call.prepare config query = .ok c → ∀ s, s.Reports config.servers.length →
        ((∀ i server, config.endpoints[i]? = some server →
            ∃ e, (c.launch s i server).result = .error e)
          ↔ ∃ causes, List.Forall₂ (c.LostAt s) s.order causes
            ∧ (resolve config s query).result = .error (.aggregate causes.flatten)
            ∧ (resolveAll config s query).result = .error (.aggregate causes.flatten)))
      ∧ ∀ s s', s.Reports config.servers.length → s'.Reports config.servers.length →
        (∀ c, Call.prepare config query = .ok c → c.SameOutcomes s s') →
        SameVerdict (resolve config s query).result (resolve config s' query).result := by
  refine ⟨fun s => resolve_eq_resolveAll_bind config s query, ?_, ?_⟩
  · intro c h s hs
    obtain ⟨rfl, rfl⟩ := Call.of_prepare h
    rw [← Call.forall_mem_results_iff hs (P := fun r => ∃ e, r = .error e),
      Call.race_results_iff hs]
    simp only [resolveAll_eq_error_iff, and_self, resolve_of_prepare h]
  · intro s s' hs hs' hsame
    cases h : Call.prepare config query with
    | error e =>
      simp only [resolve, h]
      exact SameVerdict.refl _
    | ok c =>
      rw [resolve_of_prepare h, resolve_of_prepare h]
      exact Selection.sameVerdict_of_perm (Call.results_perm hs hs' (hsame c h))

/-- Two servers on the same host, asked by both protocols. -/
def twoServers : Config :=
  { Config.standard with servers := [.v4 (.ofOctets 127 0 0 1), .v4 (.ofOctets 127 0 0 2)] }

/-- The first server cannot be reached, and the second sends no message. -/
def silent (order : List Nat) : Surroundings where
  id := 7
  bits := fun _ _ _ => false
  reply := fun i _ => if i = 0 then .error "timed out" else .ok { octets := [] }
  order := order

/-- A query for the addresses of the root, to these servers. -/
def rootCall : Call := ⟨twoServers, { name := .root }, true⟩

theorem resolve_of_arrivals_silent :
    (silent [0, 1]).Reports 2 ∧ (silent [1, 0]).Reports 2
      ∧ SameVerdict (resolve twoServers (silent [0, 1]) { name := .root }).result
        (resolve twoServers (silent [1, 0]) { name := .root }).result
      ∧ ∃ causes, List.Forall₂ (rootCall.LostAt (silent [1, 0])) [1, 0] causes
        ∧ (resolve twoServers (silent [1, 0]) { name := .root }).result
          = .error (.aggregate causes.flatten)
        ∧ (resolveAll twoServers (silent [1, 0]) { name := .root }).result
          = .error (.aggregate causes.flatten) := by
  have hprepare : Call.prepare twoServers { name := .root } = .ok rootCall := rfl
  have hs : (silent [0, 1]).Reports 2 := by decide
  have hs' : (silent [1, 0]).Reports 2 := by decide
  have hfailed : ∀ i server, twoServers.endpoints[i]? = some server →
      ∃ e, (rootCall.launch (silent [1, 0]) i server).result = .error e := by
    rintro (_ | _ | i) server h
    · cases h
      exact ⟨_, rfl⟩
    · cases h
      exact ⟨_, rfl⟩
    · cases h
  have h := resolve_of_arrivals twoServers { name := .root }
  refine ⟨hs, hs', h.2.2 _ _ hs hs' ?_, (h.2.1 rootCall hprepare _ hs').mp hfailed⟩
  intro c _ i server _
  rfl

end Resolver

end StubResolver
