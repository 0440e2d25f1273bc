import StubResolver.Proofs.Name.Parse
import StubResolver.Proofs.Resolver.Genuine

/-!
# Operations of a resolver

Whatever a resolver is asked to do, it makes calls, one for each query that it sends to its servers.
A call whose query can be sent makes one attempt with each of some entries of the list of servers,
and every message that is returned is the response of an attempt.
-/

namespace StubResolver

namespace Resolver

/-- What a resolver can be asked to do, and what surrounds it. -/
inductive Operation where
  | resolve (s : Surroundings) (query : Query)
  | resolveAll (s : Surroundings) (query : Query)
  | resolveSequential (s : Surroundings) (query : Query)
  | resolveSequentialWith (s : Surroundings) (query : Query) (accept : Message → Bool)
  | resolveSearch (s : Nat → Surroundings) (query : Query)
  | query (s : Nat → Surroundings) (text : String) (type : RecordType)
  | lookup (s : RecordType → Nat → Surroundings) (text : String)

/-! ### Calls -/

/-- What each call for a query exchanges, where search suffixes are tried. -/
def searchCalls (config : Config) (s : Nat → Surroundings) (query : Query) :
    List (List Exchange) :=
  if searches config query then
    config.search.mapIdx fun i suffix =>
      (resolve config (s i) (query.withName (query.name.join suffix))).exchanges
  else [(resolve config (s 0) query).exchanges]

/-- What each call for a name that is given as text exchanges. -/
def textCalls (config : Config) (s : Nat → Surroundings) (text : String) (type : RecordType) :
    List (List Exchange) :=
  if (Text.trim text.toList).isEmpty then []
  else match Name.parse (String.ofList (Text.trim text.toList)) with
    | .error _ => []
    | .ok name => searchCalls config s { name, type }

namespace Operation

/-- No attempt ends twice. -/
def IsScheduled : Operation → Prop
  | resolve s _ | resolveAll s _ => s.order.Nodup
  | resolveSequential .. | resolveSequentialWith .. => True
  | resolveSearch s _ | query s _ _ => ∀ i, (s i).order.Nodup
  | lookup s _ => ∀ type i, (s type i).order.Nodup

/-- What is exchanged. -/
def exchanges (config : Config) : Operation → List Exchange
  | resolve s q => (Resolver.resolve config s q).exchanges
  | resolveAll s q => (Resolver.resolveAll config s q).exchanges
  | resolveSequential s q => (Resolver.resolveSequential config s q).exchanges
  | resolveSequentialWith s q accept => (Resolver.resolveSequentialWith config s q accept).exchanges
  | resolveSearch s q => (Resolver.resolveSearch config s q).exchanges
  | query s text type => (Resolver.query config s text type).exchanges
  | lookup s text => (Resolver.lookup config s text).exchanges

/-- What is exchanged in each call. -/
def calls (config : Config) : Operation → List (List Exchange)
  | resolve s q => [(Resolver.resolve config s q).exchanges]
  | resolveAll s q => [(Resolver.resolveAll config s q).exchanges]
  | resolveSequential s q => [(Resolver.resolveSequential config s q).exchanges]
  | resolveSequentialWith s q accept =>
    [(Resolver.resolveSequentialWith config s q accept).exchanges]
  | resolveSearch s q => searchCalls config s q
  | query s text type => textCalls config s text type
  | lookup s text => textCalls config (s .a) text .a ++ textCalls config (s .aaaa) text .aaaa

/-- The messages that are returned. -/
def messages (config : Config) : Operation → List Message
  | resolve s q => (Resolver.resolve config s q).result.toOption.toList
  | resolveAll s q => (Resolver.resolveAll config s q).result.toOption.getD []
  | resolveSequential s q => (Resolver.resolveSequential config s q).result.toOption.toList
  | resolveSequentialWith s q accept =>
    (Resolver.resolveSequentialWith config s q accept).result.toOption.toList
  | resolveSearch s q => (Resolver.resolveSearch config s q).result.toOption.toList
  | query s text type => (Resolver.query config s text type).result.toOption.toList
  | lookup _ _ => []

/-- The error, if the operation fails. -/
def error? (config : Config) : Operation → Option Error
  | resolve s q => Selection.errorOf? (Resolver.resolve config s q).result
  | resolveAll s q => Selection.errorOf? (Resolver.resolveAll config s q).result
  | resolveSequential s q => Selection.errorOf? (Resolver.resolveSequential config s q).result
  | resolveSequentialWith s q accept =>
    Selection.errorOf? (Resolver.resolveSequentialWith config s q accept).result
  | resolveSearch s q => Selection.errorOf? (Resolver.resolveSearch config s q).result
  | query s text type => Selection.errorOf? (Resolver.query config s text type).result
  | lookup s text => Selection.errorOf? (Resolver.lookup config s text).result

end Operation

variable {config : Config} {s : Surroundings} {query : Query}

/-! ### Queries -/

/-- The queries that are sent for a query, where search suffixes are tried, and what surrounds
each. -/
def searchQueries (config : Config) (s : Nat → Surroundings) (query : Query) :
    List (Surroundings × Query) :=
  if searches config query then
    config.search.mapIdx fun i suffix => (s i, query.withName (query.name.join suffix))
  else [(s 0, query)]

lemma resolveSearch_of_searches {s : Nat → Surroundings} (h : searches config query = true) :
    resolveSearch config s query
      = .combine Selection.pick
        ((searchQueries config s query).map fun sent => resolve config sent.1 sent.2) := by
  simp only [resolveSearch, searchQueries, h, if_true, List.mapIdx_eq_zipIdx_map, List.map_map,
    Function.comp_def]

lemma resolveSearch_of_not_searches {s : Nat → Surroundings} (h : searches config query = false) :
    resolveSearch config s query = resolve config (s 0) query := by
  simp only [resolveSearch, h, Bool.false_eq_true, if_false]

/-- A search that tries suffixes fails if it does with each of them, and keeps their errors. -/
lemma resolveSearch_eq_error_iff {s : Nat → Surroundings} {e : Error}
    (h : searches config query = true) :
    (resolveSearch config s query).result = .error e ↔ ∃ causes,
      List.Forall₂ (fun sent cause => (resolve config sent.1 sent.2).result = .error cause)
        (searchQueries config s query) causes ∧ e = .aggregate causes := by
  rw [resolveSearch_of_searches h, Run.combine, List.map_map, Selection.pick_eq_error_iff]
  simp only [List.forall₂_map_left_iff, Function.comp_apply]

/-- The query for a name that is given as text. -/
def textQuery? (text : String) (type : RecordType) : Option Query :=
  (Name.parse (String.ofList (Text.trim text.toList))).toOption.map fun name => { name, type }

/-- A text is refused as blank, for what its name is read to, or as the query for its name is. -/
lemma query_cases (config : Config) (s : Nat → Surroundings) (text : String) (type : RecordType) :
    (Text.trim text.toList = []
        ∧ Resolver.query config s text type = .ofResult (.error (.invalidArgument .noName)))
      ∨ (Text.trim text.toList ≠ [] ∧ textQuery? text type = none
        ∧ ∃ fault, Resolver.query config s text type = .ofResult (.error (.format fault)))
      ∨ (Text.trim text.toList ≠ [] ∧ ∃ query, textQuery? text type = some query
        ∧ Resolver.query config s text type = resolveSearch config s query) := by
  unfold Resolver.query textQuery?
  dsimp only
  split_ifs with hblank
  · exact Or.inl ⟨List.isEmpty_iff.mp hblank, rfl⟩
  · have hblank := mt List.isEmpty_iff.mpr hblank
    cases hname : Name.parse (String.ofList (Text.trim text.toList)) with
    | error e =>
      obtain ⟨fault, rfl⟩ := Name.exists_fault_of_parse hname
      exact Or.inr (Or.inl ⟨hblank, rfl, fault, rfl⟩)
    | ok name => exact Or.inr (Or.inr ⟨hblank, _, rfl, rfl⟩)

lemma exchanges_resolveSearch (config : Config) (s : Nat → Surroundings) (query : Query) :
    (resolveSearch config s query).exchanges = (searchCalls config s query).flatten := by
  unfold resolveSearch searchCalls
  split_ifs
  · simp only [Run.combine, List.flatMap_def, List.mapIdx_eq_zipIdx_map, List.map_map]
    rfl
  · rw [List.flatten_singleton]

lemma exchanges_query (config : Config) (s : Nat → Surroundings) (text : String)
    (type : RecordType) :
    (Resolver.query config s text type).exchanges = (textCalls config s text type).flatten := by
  unfold Resolver.query textCalls
  dsimp only
  split_ifs
  · rfl
  · cases Name.parse (String.ofList (Text.trim text.toList)) with
    | error e => rfl
    | ok name => exact exchanges_resolveSearch config s { name, type }

lemma exchanges_eq_flatten (config : Config) (op : Operation) :
    op.exchanges config = (op.calls config).flatten := by
  cases op with
  | resolveSearch s query => exact exchanges_resolveSearch config s query
  | query s text type => exact exchanges_query config s text type
  | lookup s text =>
    simp only [Operation.exchanges, Operation.calls, lookup, Run.combine, List.flatMap_cons,
      List.flatMap_nil, List.append_nil, List.flatten_append, exchanges_query]
  | _ => exact (List.flatten_singleton).symm

/-! ### One call -/

/-- What a call exchanges: nothing if its query cannot be sent, and otherwise what one attempt with
each of some servers does. -/
inductive IsCall (config : Config) : List Exchange → Prop where
  | rejected : IsCall config []
  | asked {query : Query} {c : Call} {s : Surroundings} {order : List Nat}
      (hprepare : Call.prepare config query = .ok c) (hnodup : order.Nodup) :
      IsCall config (order.flatMap (c.exchangesAt s))

lemma isCall_resolve (hs : s.order.Nodup) : IsCall config (resolve config s query).exchanges := by
  unfold resolve
  split
  next => exact .rejected
  next c hprepare =>
    rw [Run.combine, Call.flatMap_exchanges_attempts]
    exact .asked hprepare (hs.filter _)

lemma exchanges_resolveAll (config : Config) (s : Surroundings) (query : Query) :
    (resolveAll config s query).exchanges = (resolve config s query).exchanges := by
  unfold resolveAll resolve
  cases Call.prepare config query <;> rfl

lemma isCall_resolveSequentialWith (accept : Message → Bool) :
    IsCall config (resolveSequentialWith config s query accept).exchanges := by
  unfold resolveSequentialWith
  split
  next => exact .rejected
  next c hprepare =>
    obtain ⟨k, hk⟩ := (inTurn_tryFrom c s accept).exists_range
    rw [hk]
    exact .asked hprepare List.nodup_range

lemma isCall_of_mem_searchCalls {s : Nat → Surroundings} (hs : ∀ i, (s i).order.Nodup)
    {exchanges : List Exchange} (h : exchanges ∈ searchCalls config s query) :
    IsCall config exchanges := by
  unfold searchCalls at h
  split_ifs at h
  · obtain ⟨i, hi, rfl⟩ := List.mem_mapIdx.mp h
    exact isCall_resolve (hs i)
  · obtain rfl := List.mem_singleton.mp h
    exact isCall_resolve (hs 0)

lemma isCall_of_mem_textCalls {s : Nat → Surroundings} (hs : ∀ i, (s i).order.Nodup)
    {text : String} {type : RecordType} {exchanges : List Exchange}
    (h : exchanges ∈ textCalls config s text type) : IsCall config exchanges := by
  unfold textCalls at h
  split_ifs at h
  · cases h
  · split at h
    next => cases h
    next name hname => exact isCall_of_mem_searchCalls hs h

/-- Each call of an operation makes one attempt with each of some servers. -/
lemma isCall_of_mem_calls {op : Operation} (hop : op.IsScheduled) {exchanges : List Exchange}
    (h : exchanges ∈ op.calls config) : IsCall config exchanges := by
  cases op with
  | resolve s query =>
    obtain rfl := List.mem_singleton.mp h
    exact isCall_resolve hop
  | resolveAll s query =>
    obtain rfl := List.mem_singleton.mp h
    rw [exchanges_resolveAll]
    exact isCall_resolve hop
  | resolveSequential s query =>
    obtain rfl := List.mem_singleton.mp h
    exact isCall_resolveSequentialWith _
  | resolveSequentialWith s query accept =>
    obtain rfl := List.mem_singleton.mp h
    exact isCall_resolveSequentialWith _
  | resolveSearch s query => exact isCall_of_mem_searchCalls hop h
  | query s text type => exact isCall_of_mem_textCalls hop h
  | lookup s text =>
    rcases List.mem_append.mp h with h | h
    · exact isCall_of_mem_textCalls (hop .a) h
    · exact isCall_of_mem_textCalls (hop .aaaa) h

/-! ### Messages -/

/-- A message is the response of an attempt with a server for a query that can be sent. -/
def IsResponse (config : Config) (m : Message) : Prop :=
  ∃ query c s i server, Call.prepare config query = .ok c
    ∧ (c.attempt s i server).result = .ok m

variable {m : Message}

lemma isResponse_of_mem_results {c : Call} (hprepare : Call.prepare config query = .ok c)
    (h : .ok m ∈ (c.attempts s).map (·.result)) : IsResponse config m := by
  obtain ⟨run, hrun, hm⟩ := List.mem_map.mp h
  obtain ⟨i, -, server, -, rfl⟩ := Call.mem_attempts.mp hrun
  exact ⟨query, c, s, i, server, hprepare, Call.launch_of_ok hm ▸ hm⟩

lemma isResponse_of_resolve (h : (resolve config s query).result = .ok m) :
    IsResponse config m := by
  unfold resolve at h
  split at h
  next => cases h
  next c hprepare => exact isResponse_of_mem_results hprepare (Selection.mem_of_race h)

lemma isResponse_of_resolveAll {ms : List Message}
    (h : (resolveAll config s query).result = .ok ms) (hm : m ∈ ms) : IsResponse config m := by
  unfold resolveAll at h
  split at h
  next => cases h
  next c hprepare => exact isResponse_of_mem_results hprepare (Selection.mem_of_collect h hm)

lemma isResponse_of_resolveSequentialWith {accept : Message → Bool}
    (h : (resolveSequentialWith config s query accept).result = .ok m) : IsResponse config m := by
  unfold resolveSequentialWith at h
  split at h
  next => cases h
  next c hprepare =>
    obtain ⟨k, server, -, hm, -⟩ := (inTurn_tryFrom c s accept).exists_attempt h
    exact ⟨query, c, s, k, server, hprepare, hm⟩

lemma isResponse_of_resolveSearch {s : Nat → Surroundings}
    (h : (resolveSearch config s query).result = .ok m) : IsResponse config m := by
  unfold resolveSearch at h
  split_ifs at h
  · obtain ⟨run, hrun, hm⟩ := List.mem_map.mp (Selection.mem_of_pick h)
    obtain ⟨i, hi, rfl⟩ := List.mem_mapIdx.mp hrun
    exact isResponse_of_resolve hm
  · exact isResponse_of_resolve h

lemma isResponse_of_query {s : Nat → Surroundings} {text : String} {type : RecordType}
    (h : (Resolver.query config s text type).result = .ok m) : IsResponse config m := by
  rcases query_cases config s text type with ⟨-, hrun⟩ | ⟨-, -, fault, hrun⟩ | ⟨-, query, -, hrun⟩
  · rw [hrun] at h
    cases h
  · rw [hrun] at h
    cases h
  · rw [hrun] at h
    exact isResponse_of_resolveSearch h

lemma isResponse_of_mem_messages {op : Operation} (h : m ∈ op.messages config) :
    IsResponse config m := by
  have hok {r : Except Error Message} (hr : m ∈ r.toOption.toList) : r = .ok m :=
    toOption_eq_some_iff.mp (Option.mem_toList.mp hr)
  cases op with
  | resolve s query => exact isResponse_of_resolve (hok h)
  | resolveAll s query =>
    rw [Operation.messages] at h
    cases hall : (Resolver.resolveAll config s query).result with
    | error e => simp [hall, Except.toOption] at h
    | ok ms =>
      rw [hall] at h
      exact isResponse_of_resolveAll hall h
  | resolveSequential s query => exact isResponse_of_resolveSequentialWith (hok h)
  | resolveSequentialWith s query accept => exact isResponse_of_resolveSequentialWith (hok h)
  | resolveSearch s query => exact isResponse_of_resolveSearch (hok h)
  | query s text type => exact isResponse_of_query (hok h)
  | lookup s text => cases h

end Resolver

end StubResolver
