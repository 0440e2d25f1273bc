import StubResolver.Proofs.Resolver.Preflight
import StubResolver.Proofs.Resolver.Race

/-!
# What a failed operation reports

An operation that asks servers in vain reports an aggregate of errors. Every attempt that failed is
accounted for by its own errors, and every response that was not accepted by its status. Where one
call is made these errors stand side by side. A search with suffixes and a lookup make several, and
keep the error of each as it is, so that the aggregate of a call is nested in theirs.
-/

namespace StubResolver

namespace Error

/-- The errors that an error comes down to, none of which collects others. -/
def leaves : Error → List Error
  | .aggregate causes => causes.flatMap leaves
  | e => [e]

/-- None of several errors collects others. -/
def IsFlat (errors : List Error) : Prop := ∀ e ∈ errors, e.isAggregate = false

lemma leaves_of_not_isAggregate {e : Error} (h : e.isAggregate = false) : e.leaves = [e] := by
  cases e with
  | aggregate causes => cases h
  | _ => simp [leaves]

lemma leaves_aggregate (causes : List Error) :
    (aggregate causes).leaves = causes.flatMap leaves := by
  rw [leaves]

/-- Errors of which none collects others are their own leaves. -/
lemma IsFlat.flatMap_leaves {errors : List Error} (h : IsFlat errors) :
    errors.flatMap leaves = errors := by
  induction errors with
  | nil => rfl
  | cons e errors ih =>
    obtain ⟨he, hrest⟩ := List.forall_mem_cons.mp h
    rw [List.flatMap_cons, leaves_of_not_isAggregate he, ih hrest, List.singleton_append]

lemma leaves_subset {e : Error} {errors : List Error} (h : e ∈ errors) :
    e.leaves ⊆ errors.flatMap leaves :=
  fun _ hx => List.mem_flatMap.mpr ⟨e, h, hx⟩

end Error

namespace Call

variable {c : Call} {s : Surroundings} {i : Nat} {server : Endpoint} {errors errors' : List Error}
  {e : Error}

/-! ### One call -/

/-- If an attempt failed, what it is blamed on is among some errors. -/
def Covers (c : Call) (s : Surroundings) (i : Nat) (server : Endpoint) (errors : List Error) :
    Prop :=
  ∀ e, (c.launch s i server).result = .error e → ∃ own, c.Lost s i server own ∧ own ⊆ errors

/-- Errors account for an attempt that came to nothing, by what it is blamed on if it failed, and
by the status of its response, which was not accepted, if it did not. -/
structure AccountsFor (c : Call) (s : Surroundings) (i : Nat) (server : Endpoint)
    (errors : List Error) : Prop where
  covers : c.Covers s i server errors
  status_mem : ∀ m, (c.launch s i server).result = .ok m → .status m.header.rcode ∈ errors

/-- Errors account for the attempts with all servers. -/
def Accounts (c : Call) (s : Surroundings) (errors : List Error) : Prop :=
  ∀ i server, c.config.endpoints[i]? = some server → c.AccountsFor s i server errors

lemma AccountsFor.mono (h : c.AccountsFor s i server errors) (hsub : errors ⊆ errors') :
    c.AccountsFor s i server errors' where
  covers := by
    intro e he
    obtain ⟨own, hlost, hown⟩ := h.covers e he
    exact ⟨own, hlost, List.Subset.trans hown hsub⟩
  status_mem := fun m hm => hsub (h.status_mem m hm)

lemma Accounts.mono (h : c.Accounts s errors) (hsub : errors ⊆ errors') :
    c.Accounts s errors' :=
  fun i server hserver => (h i server hserver).mono hsub

lemma accountsFor_of_error (h : (c.launch s i server).result = .error e) :
    c.AccountsFor s i server e.causes where
  covers := by
    intro e' he'
    cases h.symm.trans he'
    exact ⟨e.causes, lost_of_launch h, List.Subset.refl _⟩
  status_mem := fun m hm => by cases h.symm.trans hm

lemma accountsFor_of_ok {m : Message} (h : (c.launch s i server).result = .ok m) :
    c.AccountsFor s i server [.status m.header.rcode] where
  covers := fun e he => by cases h.symm.trans he
  status_mem := by
    intro m' hm'
    cases h.symm.trans hm'
    exact List.mem_singleton_self _

lemma isFlat_causes (h : (c.launch s i server).result = .error e) : Error.IsFlat e.causes :=
  fun _ hx => ((lost_of_launch h).isOfExchange.2 _ hx).isAggregate_eq

/-- What a call that came to nothing reports: at least one error, side by side, and these account
for it. -/
structure Exhausted (c : Call) (s : Surroundings) (causes : List Error) : Prop where
  ne_nil : causes ≠ []
  isFlat : Error.IsFlat causes
  accounts : c.Accounts s causes

/-- A race is lost if all attempts fail. -/
lemma exhausted_of_race (hs : s.Reports c.config.servers.length) (hne : c.config.servers ≠ [])
    (h : Selection.race (c.results s) = .error e) :
    ∃ causes, e = .aggregate causes ∧ c.Exhausted s causes := by
  obtain ⟨hall, rfl⟩ := Selection.race_eq_error_iff.mp h
  have hfailed : ∀ i server, c.config.endpoints[i]? = some server →
      ∃ e, (c.launch s i server).result = .error e
        ∧ e.causes ⊆ (Selection.errors (c.results s)).flatMap Error.causes := by
    intro i server hserver
    obtain ⟨e, he⟩ := (forall_mem_results_iff hs).mp hall i server hserver
    have hmem : .error e ∈ c.results s :=
      he ▸ (forall_mem_results_iff hs).mp (fun _ hr => hr) i server hserver
    exact ⟨e, he, fun x hx => List.mem_flatMap.mpr ⟨e, Selection.mem_errors.mpr hmem, hx⟩⟩
  refine ⟨_, rfl, ?_, ?_, ?_⟩
  · obtain ⟨server, hserver⟩ := Config.exists_endpoint (List.length_pos_iff.mpr hne)
    obtain ⟨e, he, hsub⟩ := hfailed 0 server hserver
    exact fun hnil => (lost_of_launch he).isOfExchange.1 (List.subset_nil.mp (hnil ▸ hsub))
  · intro x hx
    obtain ⟨e, he, hx⟩ := List.mem_flatMap.mp hx
    obtain ⟨run, hrun, heq⟩ := List.mem_map.mp (Selection.mem_errors.mp he)
    obtain ⟨i, -, server, -, rfl⟩ := mem_attempts.mp hrun
    exact isFlat_causes heq x hx
  · intro i server hserver
    obtain ⟨e, he, hsub⟩ := hfailed i server hserver
    exact (accountsFor_of_error he).mono hsub

lemma PassedOver.ne_nil {accept : Message → Bool} (h : c.PassedOver s accept i errors) :
    errors ≠ [] := by
  cases h with
  | refused => exact List.cons_ne_nil _ _
  | failed _ hblamed =>
    obtain ⟨server, -, hblamed⟩ := hblamed
    exact hblamed.isOfExchange.1

lemma PassedOver.isFlat {accept : Message → Bool} (h : c.PassedOver s accept i errors) :
    Error.IsFlat errors := by
  cases h with
  | refused => simp [Error.IsFlat, Error.isAggregate]
  | failed _ hblamed =>
    obtain ⟨server, -, hblamed⟩ := hblamed
    exact fun e he => (hblamed.isOfExchange.2 e he).isAggregate_eq

/-- What is kept of a server that is passed over accounts for it. -/
lemma PassedOver.accountsFor {accept : Message → Bool} (h : c.PassedOver s accept i errors)
    (hserver : c.config.endpoints[i]? = some server) :
    c.AccountsFor s.allStarted i server errors := by
  cases h with
  | refused hm =>
    rw [result?_of_some hserver, Option.some.injEq] at hm
    exact accountsFor_of_ok hm
  | failed he =>
    rw [result?_of_some hserver, Option.some.injEq] at he
    exact accountsFor_of_error he

/-- Servers are asked in turn to no end if each of them is passed over. -/
lemma exhausted_of_inTurn {accept : Message → Bool} {run : Run Message}
    (hne : c.config.servers ≠ []) (hturn : c.InTurn s accept run) (h : run.result = .error e) :
    ∃ causes, e = .aggregate causes ∧ c.Exhausted s.allStarted causes := by
  cases hturn with
  | accepted => cases h
  | @exhausted causes hall =>
    cases h
    have hkept : ∀ i < c.config.servers.length, ∃ own ∈ causes, c.PassedOver s accept i own :=
      fun i hi => exists_of_mem_left hall (List.mem_range.mpr hi)
    refine ⟨_, rfl, ?_, ?_, ?_⟩
    · obtain ⟨own, hown, hpassed⟩ := hkept 0 (List.length_pos_iff.mpr hne)
      exact fun hnil => hpassed.ne_nil (List.flatten_eq_nil_iff.mp hnil own hown)
    · intro x hx
      obtain ⟨own, hown, hx⟩ := List.mem_flatten.mp hx
      obtain ⟨i, -, hpassed⟩ := exists_of_mem_right hall hown
      exact hpassed.isFlat x hx
    · intro i server hserver
      obtain ⟨own, hown, hpassed⟩ := hkept i (Config.lt_of_endpoint hserver)
      exact (hpassed.accountsFor hserver).mono fun x hx => List.mem_flatten.mpr ⟨own, hown, hx⟩

/-- Servers are there, if a query can be sent. -/
lemma ne_nil_of_prepare {config : Config} {query : Query} (h : prepare config query = .ok c) :
    config.servers ≠ [] :=
  fun hnil => (exists_prepare_iff.mp ⟨c, h⟩).1 (Or.inl hnil)

/-- What is said of a query that cannot be sent. -/
lemma kind_of_prepare {config : Config} {query : Query} (h : prepare config query = .error e) :
    (∃ fault, e = .invalidArgument fault) ∨ ∃ size limit, e = .capacity size limit := by
  unfold prepare at h
  dsimp only at h
  split_ifs at h <;> cases h <;> simp

end Call

namespace Resolver

variable {c : Call} {config : Config} {s : Surroundings} {query : Query} {e : Error}

/-! ### One query -/

/-- How a query fails: it cannot be sent, or its call came to nothing. -/
inductive FailsWith (config : Config) (s : Surroundings) (query : Query) : Error → Prop where
  | refused {e : Error} (hprepare : Call.prepare config query = .error e) :
      FailsWith config s query e
  | exhausted {c : Call} {causes : List Error} (hprepare : Call.prepare config query = .ok c)
      (hcauses : c.Exhausted s causes) : FailsWith config s query (.aggregate causes)

lemma failsWith_of_resolve (hs : s.Reports config.servers.length)
    (h : (resolve config s query).result = .error e) : FailsWith config s query e := by
  cases hprepare : Call.prepare config query with
  | error e' =>
    rw [resolve_of_refused hprepare] at h
    cases h
    exact .refused hprepare
  | ok c =>
    obtain ⟨rfl, -⟩ := Call.of_prepare hprepare
    rw [resolve_of_prepare hprepare] at h
    obtain ⟨causes, rfl, hcauses⟩ := Call.exhausted_of_race hs (Call.ne_nil_of_prepare hprepare) h
    exact .exhausted hprepare hcauses

lemma failsWith_of_resolveSequentialWith {accept : Message → Bool}
    (h : (resolveSequentialWith config s query accept).result = .error e) :
    FailsWith config s.allStarted query e := by
  cases hprepare : Call.prepare config query with
  | error e' =>
    rw [resolveSequentialWith_of_refused hprepare] at h
    cases h
    exact .refused hprepare
  | ok c =>
    obtain ⟨rfl, -⟩ := Call.of_prepare hprepare
    rw [resolveSequentialWith_of_prepare hprepare] at h
    obtain ⟨causes, rfl, hcauses⟩ := Call.exhausted_of_inTurn (Call.ne_nil_of_prepare hprepare)
      (inTurn_tryFrom c s accept) h
    exact .exhausted hprepare hcauses

namespace FailsWith

/-- Errors are collected exactly if the query was sent. -/
lemma isAggregate_iff (h : FailsWith config s query e) :
    e.isAggregate = true ↔ ∃ c, Call.prepare config query = .ok c := by
  cases h with
  | refused hprepare =>
    simp only [hprepare, reduceCtorEq, exists_false, iff_false]
    rcases Call.kind_of_prepare hprepare with ⟨fault, rfl⟩ | ⟨size, limit, rfl⟩ <;>
      simp [Error.isAggregate]
  | exhausted hprepare => exact ⟨fun _ => ⟨_, hprepare⟩, fun _ => rfl⟩

lemma accounts (h : FailsWith config s query e) (hprepare : Call.prepare config query = .ok c) :
    c.Accounts s e.leaves := by
  cases h with
  | refused hrefused => cases hrefused.symm.trans hprepare
  | exhausted hprepare' hcauses =>
    cases hprepare'.symm.trans hprepare
    rw [Error.leaves_aggregate, hcauses.isFlat.flatMap_leaves]
    exact hcauses.accounts

lemma exhausted_of_aggregate {causes : List Error}
    (h : FailsWith config s query (.aggregate causes)) :
    causes ≠ [] ∧ Error.IsFlat causes := by
  cases h with
  | refused hprepare => rcases Call.kind_of_prepare hprepare with ⟨_, h⟩ | ⟨_, _, h⟩ <;> cases h
  | exhausted hprepare hcauses => exact ⟨hcauses.ne_nil, hcauses.isFlat⟩

/-- The error of a query that was not sent comes of no exchange. -/
lemma not_isOfExchange (h : FailsWith config s query e) (hsingle : e.isAggregate = false) :
    ¬ e.IsOfExchange := by
  cases h with
  | refused hprepare =>
    rcases Call.kind_of_prepare hprepare with ⟨fault, rfl⟩ | ⟨size, limit, rfl⟩ <;> exact id
  | exhausted => cases hsingle

end FailsWith

/-! ### Search suffixes -/

/-- Errors account for the calls of those queries that can be sent. -/
def Accounted (config : Config) (queries : List (Surroundings × Query)) (errors : List Error) :
    Prop :=
  ∀ sent ∈ queries, ∀ c, Call.prepare config sent.2 = .ok c → c.Accounts sent.1 errors

/-- Search suffixes are tried, and the query can be sent with one of them. -/
def SearchesInFull (config : Config) (query : Query) : Prop :=
  searches config query = true ∧ ∃ q ∈ candidates config query, ∃ c, Call.prepare config q = .ok c

variable {s : Nat → Surroundings} {causes : List Error}

lemma reports_of_mem_searchQueries {n : Nat} (hs : ∀ i, (s i).Reports n)
    {sent : Surroundings × Query} (h : sent ∈ searchQueries config s query) : sent.1.Reports n := by
  unfold searchQueries at h
  split_ifs at h
  · obtain ⟨i, hi, rfl⟩ := List.mem_mapIdx.mp h
    exact hs i
  · obtain rfl := List.mem_singleton.mp h
    exact hs 0

/-- A search fails as its query does, or, where suffixes are tried, with the errors for all. -/
lemma search_cases (hs : ∀ i, (s i).Reports config.servers.length)
    (h : (resolveSearch config s query).result = .error e) :
    (searches config query = false ∧ FailsWith config (s 0) query e)
      ∨ (searches config query = true ∧ ∃ causes, e = .aggregate causes
        ∧ List.Forall₂ (fun sent cause => FailsWith config sent.1 sent.2 cause)
          (searchQueries config s query) causes) := by
  cases hsearches : searches config query with
  | false =>
    rw [resolveSearch_of_not_searches hsearches] at h
    exact Or.inl ⟨rfl, failsWith_of_resolve (hs 0) h⟩
  | true =>
    obtain ⟨causes, hcauses, rfl⟩ := (resolveSearch_eq_error_iff hsearches).mp h
    have hreports := (List.forall₂_and_left _ _).mpr
      ⟨fun sent hsent => reports_of_mem_searchQueries hs hsent, hcauses⟩
    exact Or.inr ⟨rfl, causes, rfl, hreports.imp fun sent cause hcause =>
      failsWith_of_resolve hcause.1 hcause.2⟩

lemma accounted_of_search (hs : ∀ i, (s i).Reports config.servers.length)
    (h : (resolveSearch config s query).result = .error e) :
    Accounted config (searchQueries config s query) e.leaves := by
  intro sent hsent c hprepare
  rcases search_cases hs h with ⟨hsearches, hfails⟩ | ⟨-, causes, rfl, hcauses⟩
  · rw [searchQueries, hsearches, if_neg Bool.false_ne_true] at hsent
    obtain rfl := List.mem_singleton.mp hsent
    exact hfails.accounts hprepare
  · obtain ⟨cause, hmem, hfails⟩ := exists_of_mem_left hcauses hsent
    rw [Error.leaves_aggregate]
    exact (hfails.accounts hprepare).mono (Error.leaves_subset hmem)

/-- The aggregate of a search is flat unless a query was sent with one of the suffixes. -/
lemma report_of_search (hs : ∀ i, (s i).Reports config.servers.length)
    (h : (resolveSearch config s query).result = .error (.aggregate causes)) :
    causes ≠ [] ∧ (Error.IsFlat causes ↔ ¬ SearchesInFull config query) := by
  rcases search_cases hs h with ⟨hsearches, hfails⟩ | ⟨hsearches, causes, heq, hcauses⟩
  · obtain ⟨hne, hflat⟩ := hfails.exhausted_of_aggregate
    simp [hne, hflat, SearchesInFull, hsearches]
  · obtain rfl := Error.aggregate.inj heq
    constructor
    · rintro rfl
      have hnil : searchQueries config s query = [] := List.forall₂_nil_right_iff.mp hcauses
      simp [searchQueries, hsearches] at hnil
      simp [searches, hnil] at hsearches
    · rw [SearchesInFull, not_and, forall_prop_of_true hsearches]
      constructor
      · rintro hflat ⟨q, hq, hprepare⟩
        obtain ⟨sent, hsent, rfl⟩ := (mem_candidates_iff s).mp hq
        obtain ⟨cause, hmem, hfails⟩ := exists_of_mem_left hcauses hsent
        have htrue := hfails.isAggregate_iff.mpr hprepare
        cases (hflat cause hmem).symm.trans htrue
      · intro hnone cause hmem
        obtain ⟨sent, hsent, hfails⟩ := exists_of_mem_right hcauses hmem
        have hq := (mem_candidates_iff s).mpr ⟨sent, hsent, rfl⟩
        refine Bool.eq_false_iff.mpr fun htrue => hnone ⟨sent.2, hq, ?_⟩
        exact hfails.isAggregate_iff.mp htrue

/-! ### Names in text -/

/-- The queries that are sent for a name that is given as text, and what surrounds each. -/
def textQueries (config : Config) (s : Nat → Surroundings) (text : String) (type : RecordType) :
    List (Surroundings × Query) :=
  if (Text.trim text.toList).isEmpty then []
  else (textQuery? text type).elim [] (searchQueries config s)

variable {text : String} {type : RecordType}

lemma accounted_of_query (hs : ∀ i, (s i).Reports config.servers.length)
    (h : (Resolver.query config s text type).result = .error e) :
    Accounted config (textQueries config s text type) e.leaves := by
  rcases query_cases config s text type with
    ⟨htext, -⟩ | ⟨-, hname, -⟩ | ⟨htext, query, hname, hrun⟩
  · simp [Accounted, textQueries, htext]
  · simp [Accounted, textQueries, hname]
  · rw [hrun] at h
    simpa [textQueries, htext, hname] using accounted_of_search hs h

lemma report_of_query (hs : ∀ i, (s i).Reports config.servers.length)
    (h : (Resolver.query config s text type).result = .error (.aggregate causes)) :
    causes ≠ [] ∧ (Error.IsFlat causes
      ↔ ¬ ∃ query, textQuery? text type = some query ∧ SearchesInFull config query) := by
  rcases query_cases config s text type with
    ⟨-, hrun⟩ | ⟨-, -, fault, hrun⟩ | ⟨-, query, hname, hrun⟩
  · rw [hrun] at h
    cases h
  · rw [hrun] at h
    cases h
  · rw [hrun] at h
    simpa [hname] using report_of_search hs h

/-- Where a name can be read, a single error comes of no exchange. -/
lemma not_isOfExchange_of_query {query : Query} (hs : ∀ i, (s i).Reports config.servers.length)
    (htext : Text.trim text.toList ≠ []) (hname : textQuery? text type = some query)
    (h : (Resolver.query config s text type).result = .error e) (hsingle : e.isAggregate = false) :
    ¬ e.IsOfExchange := by
  rcases query_cases config s text type with
    ⟨hblank, -⟩ | ⟨-, hnone, -⟩ | ⟨-, query, -, hrun⟩
  · exact (htext hblank).elim
  · cases hnone.symm.trans hname
  · rw [hrun] at h
    rcases search_cases hs h with ⟨-, hfails⟩ | ⟨-, causes, rfl, -⟩
    · exact hfails.not_isOfExchange hsingle
    · cases hsingle

/-- If anything is sent for a text, it is no blank and holds a name, whatever type is asked for. -/
lemma exists_query_of_mem_textQueries {sent : Surroundings × Query}
    (h : sent ∈ textQueries config s text type) :
    Text.trim text.toList ≠ [] ∧ ∀ type, ∃ query, textQuery? text type = some query := by
  unfold textQueries at h
  split_ifs at h with htext
  · cases h
  · refine ⟨mt List.isEmpty_iff.mpr htext, fun type' => ?_⟩
    cases hname : Name.parse (String.ofList (Text.trim text.toList)) with
    | error e => simp [textQuery?, hname, Except.toOption] at h
    | ok name => exact ⟨{ name, type := type' }, by simp [textQuery?, hname, Except.toOption]⟩

/-! ### Lookups -/

lemma addresses_eq_error {results : List (Except Error Message)}
    (h : addresses results = .error e) :
    results.filterMap addresses.failure? ≠ []
      ∧ e = .aggregate (results.filterMap addresses.failure?) := by
  unfold addresses at h
  dsimp only at h
  split_ifs at h with hfailed
  · cases h
    simp_all

lemma failure?_eq_some_iff {result : Except Error Message} :
    addresses.failure? result = some e ↔ Selection.errorOf? result = some e
      ∨ ∃ m ∈ result.toOption.toList, m.isNoError = false ∧ e = .status m.header.rcode := by
  cases result with
  | error e' => simp [addresses.failure?, Selection.errorOf?, Except.toOption]
  | ok m =>
    simp only [addresses.failure?, Selection.errorOf?, Except.toOption, Option.toList_some,
      List.mem_singleton, exists_eq_left, reduceCtorEq, false_or]
    split_ifs with hm
    · simp [hm]
    · simp [hm, eq_comm]

/-! ### Operations -/

namespace Operation

/-- Each attempt ends, and ends once. -/
def Reports (n : Nat) : Operation → Prop
  | resolve s _ | resolveAll s _ => s.Reports n
  | resolveSequential .. | resolveSequentialWith .. => True
  | resolveSearch s _ | .query s _ _ => ∀ i, (s i).Reports n
  | lookup s _ => ∀ type i, (s type i).Reports n

/-- The queries that are sent, and what surrounds each. Where servers are asked in turn, no attempt
is made beside others. -/
def queries (config : Config) : Operation → List (Surroundings × Query)
  | resolve s q | resolveAll s q => [(s, q)]
  | resolveSequential s q | resolveSequentialWith s q _ => [(s.allStarted, q)]
  | resolveSearch s q => searchQueries config s q
  | .query s text type => textQueries config s text type
  | lookup s text => textQueries config (s .a) text .a ++ textQueries config (s .aaaa) text .aaaa

/-- The operations whose results an operation puts together: the queries for the two types of
addresses in a lookup, and otherwise itself. -/
def parts : Operation → List Operation
  | lookup s text => [.query (s .a) text .a, .query (s .aaaa) text .aaaa]
  | op => [op]

/-- An aggregate is kept inside another: that of a suffix in a search, or that of a query in a
lookup. -/
def Nests (config : Config) (op : Operation) : Prop :=
  match op with
  | resolveSearch _ q => SearchesInFull config q
  | .query _ text type => ∃ q, textQuery? text type = some q ∧ SearchesInFull config q
  | lookup .. => ∃ part ∈ op.parts, ∃ causes, part.error? config = some (.aggregate causes)
  | _ => False

/-- An attempt failed for a part that does not. -/
def Drops (config : Config) (op : Operation) : Prop :=
  ∃ part ∈ op.parts, part.error? config = none ∧ ∃ sent ∈ part.queries config,
    ∃ c, Call.prepare config sent.2 = .ok c ∧ ∃ i server, c.config.endpoints[i]? = some server
      ∧ ∃ e, (c.launch sent.1 i server).result = .error e

/-- Every attempt that failed is accounted for by some errors. -/
def IsCovered (config : Config) (errors : List Error) (op : Operation) : Prop :=
  ∀ sent ∈ op.queries config, ∀ c, Call.prepare config sent.2 = .ok c →
    ∀ i server, c.config.endpoints[i]? = some server → c.Covers sent.1 i server errors

/-- What the causes are that an operation collects. -/
structure Reported (config : Config) (causes : List Error) (op : Operation) : Prop where
  ne_nil : causes ≠ []
  isFlat_iff : Error.IsFlat causes ↔ ¬ op.Nests config
  isCovered_iff : Error.IsFlat causes → (op.IsCovered config causes ↔ ¬ op.Drops config)
  accounted : ∀ part ∈ op.parts, ∀ e, part.error? config = some e →
    Accounted config (part.queries config) (causes.flatMap Error.leaves)
  status_mem : ∀ part ∈ op.parts, ∀ m ∈ part.messages config, m.isNoError = false →
    .status m.header.rcode ∈ causes

variable {op : Operation}

/-! ### One part -/

lemma messages_of_error? (hparts : op.parts = [op]) (h : op.error? config = some e) :
    op.messages config = [] := by
  cases op with
  | lookup s text => rfl
  | _ =>
    have hresult := Selection.errorOf?_eq_some_iff.mp h
    rw [messages, hresult]
    rfl

/-- What an operation reports that is its only part. -/
lemma report_of_error? (hop : op.Reports config.servers.length) (hparts : op.parts = [op])
    (h : op.error? config = some e) :
    Accounted config (op.queries config) e.leaves ∧ ∀ causes, e = .aggregate causes →
      causes ≠ [] ∧ (Error.IsFlat causes ↔ ¬ op.Nests config) := by
  have hone {s : Surroundings} {q : Query} (hfails : FailsWith config s q e) :
      Accounted config [(s, q)] e.leaves ∧ ∀ causes, e = .aggregate causes →
        causes ≠ [] ∧ (Error.IsFlat causes ↔ ¬ False) := by
    constructor
    · intro sent hsent c hprepare
      obtain rfl := List.mem_singleton.mp hsent
      exact hfails.accounts hprepare
    · rintro causes rfl
      obtain ⟨hne, hflat⟩ := hfails.exhausted_of_aggregate
      exact ⟨hne, by simp [hflat]⟩
  cases op with
  | resolve s q => exact hone (failsWith_of_resolve hop (Selection.errorOf?_eq_some_iff.mp h))
  | resolveAll s q =>
    have hresult := Selection.errorOf?_eq_some_iff.mp h
    exact hone (failsWith_of_resolve hop (resolveAll_eq_error_iff.mp hresult))
  | resolveSequential s q =>
    exact hone (failsWith_of_resolveSequentialWith (Selection.errorOf?_eq_some_iff.mp h))
  | resolveSequentialWith s q accept =>
    exact hone (failsWith_of_resolveSequentialWith (Selection.errorOf?_eq_some_iff.mp h))
  | resolveSearch s q =>
    have hresult := Selection.errorOf?_eq_some_iff.mp h
    exact ⟨accounted_of_search hop hresult, fun causes heq => report_of_search hop (heq ▸ hresult)⟩
  | query s text type =>
    have hresult := Selection.errorOf?_eq_some_iff.mp h
    exact ⟨accounted_of_query hop hresult, fun causes heq => report_of_query hop (heq ▸ hresult)⟩
  | lookup s text => cases hparts

/-! ### The parts of an operation -/

lemma parts_eq_or (op : Operation) : op.parts = [op] ∨ ∃ s text, op = .lookup s text := by
  cases op with
  | lookup s text => exact Or.inr ⟨s, text, rfl⟩
  | _ => exact Or.inl rfl

lemma mem_parts_lookup {s : RecordType → Nat → Surroundings} {text : String} {part : Operation} :
    part ∈ (lookup s text).parts
      ↔ ∃ type ∈ [RecordType.a, .aaaa], part = .query (s type) text type := by
  simp [parts]

lemma mem_queries_iff {sent : Surroundings × Query} :
    sent ∈ op.queries config ↔ ∃ part ∈ op.parts, sent ∈ part.queries config := by
  rcases op.parts_eq_or with hparts | ⟨s, text, rfl⟩
  · simp [hparts]
  · simp [parts, queries]

lemma reports_of_mem_parts {n : Nat} {part : Operation} (hop : op.Reports n)
    (h : part ∈ op.parts) : part.Reports n ∧ part.parts = [part] := by
  rcases op.parts_eq_or with hparts | ⟨s, text, rfl⟩
  · rw [hparts] at h
    obtain rfl := List.mem_singleton.mp h
    exact ⟨hop, hparts⟩
  · obtain ⟨type, -, rfl⟩ := mem_parts_lookup.mp h
    exact ⟨hop type, rfl⟩

/-- A lookup collects what its queries fail with, and the status of their responses. -/
lemma mem_causes_of_lookup {s : RecordType → Nat → Surroundings} {text : String}
    (h : (lookup s text).error? config = some (.aggregate causes)) :
    causes ≠ [] ∧ ∀ x, x ∈ causes ↔ ∃ part ∈ (lookup s text).parts, part.error? config = some x
      ∨ ∃ m ∈ part.messages config, m.isNoError = false ∧ x = .status m.header.rcode := by
  obtain ⟨hne, heq⟩ := addresses_eq_error (Selection.errorOf?_eq_some_iff.mp h)
  obtain rfl := Error.aggregate.inj heq
  refine ⟨hne, fun x => ?_⟩
  simp only [List.mem_filterMap, failure?_eq_some_iff, parts, List.map_cons, List.map_nil,
    List.mem_cons, List.not_mem_nil, or_false, exists_eq_or_imp, exists_eq_left]
  rfl

/-- A lookup that sends anything and collects no aggregate keeps no error of an exchange. -/
lemma not_isOfExchange_of_lookup {s : RecordType → Nat → Surroundings} {text : String}
    (hs : ∀ type i, (s type i).Reports config.servers.length)
    (h : (lookup s text).error? config = some (.aggregate causes)) (hflat : Error.IsFlat causes)
    {sent : Surroundings × Query} (hsent : sent ∈ (lookup s text).queries config) :
    ∀ x ∈ causes, ¬ x.IsOfExchange := by
  obtain ⟨part, hpart, hsent⟩ := mem_queries_iff.mp hsent
  obtain ⟨type, -, rfl⟩ := mem_parts_lookup.mp hpart
  obtain ⟨htext, hname⟩ := exists_query_of_mem_textQueries hsent
  intro x hx
  obtain ⟨part, hpart, herror | ⟨m, -, -, rfl⟩⟩ := ((mem_causes_of_lookup h).2 x).mp hx
  · obtain ⟨type', -, rfl⟩ := mem_parts_lookup.mp hpart
    obtain ⟨query, hquery⟩ := hname type'
    exact not_isOfExchange_of_query (hs type') htext hquery
      (Selection.errorOf?_eq_some_iff.mp herror) (hflat x hx)
  · exact id

lemma isFlat_iff_of_lookup {s : RecordType → Nat → Surroundings} {text : String}
    (h : (lookup s text).error? config = some (.aggregate causes)) :
    Error.IsFlat causes ↔ ¬ (lookup s text).Nests config := by
  have hmem := (mem_causes_of_lookup h).2
  constructor
  · rintro hflat ⟨part, hpart, causes', herror⟩
    cases hflat _ ((hmem _).mpr ⟨part, hpart, Or.inl herror⟩)
  · intro hnests x hx
    obtain ⟨part, hpart, herror | ⟨m, -, -, rfl⟩⟩ := (hmem x).mp hx
    · cases x with
      | aggregate causes' => exact (hnests ⟨part, hpart, causes', herror⟩).elim
      | _ => rfl
    · rfl

/-! ### The whole operation -/

section Parts

variable (hop : op.Reports config.servers.length) (h : op.error? config = some (.aggregate causes))
  {part : Operation} (hpart : part ∈ op.parts)

include hop h in
lemma report_of_parts :
    causes ≠ [] ∧ (Error.IsFlat causes ↔ ¬ op.Nests config) := by
  rcases op.parts_eq_or with hparts | ⟨s, text, rfl⟩
  · exact (report_of_error? hop hparts h).2 causes rfl
  · exact ⟨(mem_causes_of_lookup h).1, isFlat_iff_of_lookup h⟩

include h hpart in
/-- What a part fails with is kept. -/
lemma leaves_subset_of_part (he : part.error? config = some e) :
    e.leaves ⊆ causes.flatMap Error.leaves := by
  rcases op.parts_eq_or with hparts | ⟨s, text, rfl⟩
  · rw [hparts] at hpart
    obtain rfl := List.mem_singleton.mp hpart
    obtain rfl := Option.some.inj (h.symm.trans he)
    rw [Error.leaves_aggregate]
    exact List.Subset.refl _
  · exact Error.leaves_subset (((mem_causes_of_lookup h).2 e).mpr ⟨part, hpart, Or.inl he⟩)

include hop h hpart in
lemma accounted_of_part (he : part.error? config = some e) :
    Accounted config (part.queries config) (causes.flatMap Error.leaves) := by
  obtain ⟨hreports, hself⟩ := reports_of_mem_parts hop hpart
  intro sent hsent c hprepare
  exact ((report_of_error? hreports hself he).1 sent hsent c hprepare).mono
    (leaves_subset_of_part h hpart he)

include hop h in
/-- Side by side, the causes account for every attempt that failed, except beside a response. -/
lemma isCovered_iff (hflat : Error.IsFlat causes) :
    op.IsCovered config causes ↔ ¬ op.Drops config := by
  constructor
  · rintro hcovered ⟨part, hpart, hnone, sent, hsent, c, hprepare, i, server, hserver, e, he⟩
    rcases op.parts_eq_or with hparts | ⟨s, text, rfl⟩
    · rw [hparts] at hpart
      obtain rfl := List.mem_singleton.mp hpart
      cases h.symm.trans hnone
    · -- The errors of the attempt would be among the causes, where none comes of an exchange.
      have hsent := mem_queries_iff.mpr ⟨part, hpart, hsent⟩
      obtain ⟨own, hlost, hown⟩ := hcovered sent hsent c hprepare i server hserver e he
      obtain ⟨hne, hexchange⟩ := hlost.isOfExchange
      obtain ⟨x, hx⟩ := List.exists_mem_of_ne_nil own hne
      exact not_isOfExchange_of_lookup hop h hflat hsent x (hown hx) (hexchange x hx)
  · intro hdrops sent hsent c hprepare i server hserver e he
    obtain ⟨part, hpart, hsent⟩ := mem_queries_iff.mp hsent
    cases herror : part.error? config with
    | none =>
      exact (hdrops ⟨part, hpart, herror, sent, hsent, c, hprepare, i, server, hserver, e, he⟩).elim
    | some e' =>
      have haccounts := accounted_of_part hop h hpart herror sent hsent c hprepare
      rw [hflat.flatMap_leaves] at haccounts
      exact (haccounts i server hserver).covers e he

include h hpart in
lemma status_mem_of_part {m : Message} (hm : m ∈ part.messages config)
    (hstatus : m.isNoError = false) : .status m.header.rcode ∈ causes := by
  rcases op.parts_eq_or with hparts | ⟨s, text, rfl⟩
  · rw [hparts] at hpart
    obtain rfl := List.mem_singleton.mp hpart
    rw [messages_of_error? hparts h] at hm
    cases hm
  · exact ((mem_causes_of_lookup h).2 _).mpr ⟨part, hpart, Or.inr ⟨m, hm, hstatus, rfl⟩⟩

end Parts

end Operation

/-- An operation that collects errors has at least one, and they account for every part that fails,
down to the attempts. They are flat exactly if no aggregate is kept inside, and if they are, they
account for every attempt that failed exactly if none did beside a response. -/
theorem reported_of_error (config : Config) (op : Operation)
    (hop : op.Reports config.servers.length) (causes : List Error)
    (h : op.error? config = some (.aggregate causes)) : op.Reported config causes where
  ne_nil := (Operation.report_of_parts hop h).1
  isFlat_iff := (Operation.report_of_parts hop h).2
  isCovered_iff := fun hflat => Operation.isCovered_iff hop h hflat
  accounted := fun _ hpart _ he => Operation.accounted_of_part hop h hpart he
  status_mem := fun _ hpart _ hm hstatus => Operation.status_mem_of_part h hpart hm hstatus

/-- Servers of which none can be reached. -/
def unreachable (order : List Nat) : Surroundings where
  id := 7
  bits := fun _ _ _ => false
  reply := fun _ _ => .error "unexpected exchange"
  order := order

/-- One server, and one search suffix. -/
def oneSuffix : Config := { oneServer with search := [⟨[.text [0x63, 0x6F, 0x6D]]⟩] }

theorem reported_of_error_silent :
    (Operation.resolveSequential (silent []) { name := .root }).Reports 2
      ∧ ∃ causes, (Operation.resolveSequential (silent []) { name := .root }).error? twoServers
          = some (.aggregate causes)
        ∧ (Operation.resolveSequential (silent []) { name := .root }).Reported twoServers
          causes := by
  have hop : (Operation.resolveSequential (silent []) { name := .root }).Reports 2 := trivial
  exact ⟨hop, _, rfl, reported_of_error twoServers _ hop _ rfl⟩

/-- The aggregate for a suffix is kept inside that of the search. -/
theorem nested_of_search :
    (Operation.resolveSearch (fun _ => unreachable [0]) { name := ⟨[.text [0x61]]⟩ }).Reports 1
      ∧ (Operation.resolveSearch (fun _ => unreachable [0]) { name := ⟨[.text [0x61]]⟩ }).error?
          oneSuffix
        = some (.aggregate [.aggregate
          [.transport ⟨.v4 (.ofOctets 127 0 0 1), 53⟩ .udp "unexpected exchange",
            .transport ⟨.v4 (.ofOctets 127 0 0 1), 53⟩ .tcp "unexpected exchange"]]) :=
  ⟨fun _ => (by decide : (unreachable [0]).Reports 1), rfl⟩

end Resolver

end StubResolver
