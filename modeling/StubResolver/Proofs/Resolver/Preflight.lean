import StubResolver.Proofs.Resolver.Operation

/-!
# Before anything is sent

Whether a query can be sent is checked before anything is exchanged. It cannot if no server can be
asked, or if its message is too large for the protocols that are allowed, and then every operation
on it fails without an exchange. The operation returns the error of the check itself, unless search
suffixes are tried. The check is made for each suffix then, and the errors are collected.
-/

namespace StubResolver

/-- No server can be asked: there is none, or no protocol is allowed. -/
def Config.IsUnusable (config : Config) : Prop :=
  config.servers = [] ∨ config.udp = false ∧ config.tcp = false

/-- The greatest size of a query that is sent to the servers. -/
def Config.maxQuery (config : Config) : Nat := if config.tcp then maxTcpQuery else maxUdpQuery

namespace Query

/-- The message that sends a query is too large for the protocols that are allowed. -/
def IsOversized (config : Config) (query : Query) : Prop :=
  ∀ id, config.tcp = false ∧ 512 < (query.encode id).length ∨ 65535 < (query.encode id).length

lemma isOversized_iff {config : Config} {query : Query} :
    query.IsOversized config ↔ config.maxQuery < query.wireLength := by
  simp only [IsOversized, length_encode, forall_const, Config.maxQuery]
  cases config.tcp <;> simp [maxUdpQuery, maxTcpQuery]
  omega

end Query

namespace Call

variable {config : Config} {query : Query}

/-! ### The check -/

lemma prepare_of_isUnusable (query : Query) (h : config.IsUnusable) :
    ∃ fault, prepare config query = .error (.invalidArgument fault) := by
  by_cases hservers : config.servers = []
  · exact ⟨.noServers, by simp [prepare, hservers]⟩
  · obtain ⟨hudp, htcp⟩ := h.resolve_left hservers
    exact ⟨.noProtocol, by simp [prepare, hservers, hudp, htcp]⟩

/-- Where servers can be asked, the size of the query decides. -/
lemma prepare_of_not_isUnusable (h : ¬ config.IsUnusable) :
    prepare config query =
      if config.maxQuery < query.wireLength then .error (.capacity query.wireLength config.maxQuery)
      else .ok ⟨config, query, config.udp && decide (query.wireLength ≤ maxUdpQuery)⟩ := by
  have hservers : config.servers ≠ [] := fun hnil => h (Or.inl hnil)
  have hsizes : maxUdpQuery < maxTcpQuery := by decide
  cases htcp : config.tcp with
  | true => simp [prepare, Config.maxQuery, hservers, htcp]
  | false =>
    have hudp : config.udp = true := by
      by_contra hnone
      exact h (Or.inr ⟨Bool.eq_false_iff.mpr hnone, htcp⟩)
    by_cases hsize : query.wireLength ≤ maxUdpQuery
    · have hlarge : ¬ maxTcpQuery < query.wireLength := by omega
      simp [prepare, Config.maxQuery, hservers, htcp, hudp, hsize, hlarge]
    · simp [prepare, Config.maxQuery, hservers, htcp, hudp, hsize, Nat.lt_of_not_le hsize]

lemma prepare_of_isOversized (hconfig : ¬ config.IsUnusable) (h : query.IsOversized config) :
    prepare config query = .error (.capacity query.wireLength config.maxQuery) := by
  rw [prepare_of_not_isUnusable hconfig, if_pos (Query.isOversized_iff.mp h)]

/-- A query can be sent exactly if servers can be asked and its message is not too large. -/
lemma exists_prepare_iff :
    (∃ c, prepare config query = .ok c) ↔ ¬ config.IsUnusable ∧ ¬ query.IsOversized config := by
  rw [Query.isOversized_iff]
  by_cases hconfig : config.IsUnusable
  · obtain ⟨fault, hfault⟩ := prepare_of_isUnusable query hconfig
    simp [hconfig, hfault]
  · rw [prepare_of_not_isUnusable hconfig]
    split_ifs with hsize <;> simp [hconfig, hsize]

end Call

namespace Resolver

variable {config : Config} {query : Query} {s : Surroundings} {e : Error}

/-! ### One query -/

lemma resolve_of_refused (h : Call.prepare config query = .error e) :
    resolve config s query = .ofResult (.error e) := by
  simp only [resolve, h]

lemma resolveAll_of_refused (h : Call.prepare config query = .error e) :
    resolveAll config s query = .ofResult (.error e) := by
  simp only [resolveAll, h]

lemma resolveSequentialWith_of_refused {accept : Message → Bool}
    (h : Call.prepare config query = .error e) :
    resolveSequentialWith config s query accept = .ofResult (.error e) := by
  simp only [resolveSequentialWith, h]

/-! ### Search suffixes -/

/-- The queries that come of one query: itself, or, where search suffixes are tried, the query with
each of them. -/
def candidates (config : Config) (query : Query) : List Query :=
  if searches config query then
    config.search.map fun suffix => query.withName (query.name.join suffix)
  else [query]

lemma mem_candidates_iff (s : Nat → Surroundings) {q : Query} :
    q ∈ candidates config query ↔ ∃ sent ∈ searchQueries config s query, sent.2 = q := by
  unfold candidates searchQueries
  split_ifs
  · simp [List.mem_iff_getElem]
  · simp [eq_comm]

/-- A query that is refused with every suffix is refused, and each of the errors is kept. -/
lemma resolveSearch_of_refused {s : Nat → Surroundings} (reason : Error → Prop)
    (hsearches : searches config query = true)
    (h : ∀ q ∈ candidates config query, ∃ e, Call.prepare config q = .error e ∧ reason e) :
    ∃ causes, resolveSearch config s query = .ofResult (.error (.aggregate causes))
      ∧ causes.length = config.search.length ∧ ∀ e ∈ causes, reason e := by
  have hrefused : ∀ sent ∈ searchQueries config s query,
      ∃ e, resolve config sent.1 sent.2 = .ofResult (.error e) ∧ reason e := by
    intro sent hsent
    obtain ⟨e, he, hreason⟩ := h sent.2 ((mem_candidates_iff s).mpr ⟨sent, hsent, rfl⟩)
    exact ⟨e, resolve_of_refused he, hreason⟩
  obtain ⟨causes, hcauses⟩ := exists_forall₂ hrefused
  have hresult : (resolveSearch config s query).result = .error (.aggregate causes) := by
    refine (resolveSearch_eq_error_iff hsearches).mpr ⟨causes, hcauses.imp ?_, rfl⟩
    rintro sent e ⟨hrun, -⟩
    rw [hrun, Run.ofResult]
  have hexchanges : (resolveSearch config s query).exchanges = [] := by
    rw [resolveSearch_of_searches hsearches, Run.combine, List.flatMap_map]
    refine List.flatMap_eq_nil_iff.mpr fun sent hsent => ?_
    obtain ⟨e, hrun, -⟩ := hrefused sent hsent
    rw [hrun, Run.ofResult]
  refine ⟨causes, ?_, ?_, ?_⟩
  · rw [Run.ofResult, ← hresult, ← hexchanges]
  · rw [← hcauses.length_eq]
    simp [searchQueries, hsearches]
  · intro e he
    obtain ⟨sent, -, -, hreason⟩ := exists_of_mem_right hcauses he
    exact hreason

/-! ### Operations -/

/-- The empty text is the root. -/
lemma textQuery?_of_blank {text : String} {type : RecordType} (h : Text.trim text.toList = []) :
    textQuery? text type = some { name := .root, type } := by
  have hroot : Name.parse (String.ofList []) = .ok .root :=
    Name.parse_eq_ok_iff.mpr (Or.inr ⟨by simp, by simp [Name.labelsOnto, Name.root]⟩)
  rw [textQuery?, h, hroot]
  rfl

lemma not_isOversized_root (config : Config) (type : RecordType) :
    ¬ ({ name := .root, type } : Query).IsOversized config := by
  rw [Query.isOversized_iff, Config.maxQuery]
  cases config.tcp <;> simp [Query.wireLength, Name.wireLength, Name.root, maxUdpQuery, maxTcpQuery]

namespace Operation

/-- The query that an operation is asked, if it is a single one whose name can be read. -/
def asked? : Operation → Option Query
  | resolve _ q | resolveAll _ q | resolveSequential _ q | resolveSequentialWith _ q _
  | resolveSearch _ q => some q
  | .query _ text type => textQuery? text type
  | lookup .. => none

/-- Whether search suffixes are tried. -/
def expands (config : Config) : Operation → Bool
  | resolveSearch _ q => searches config q
  | .query _ text type => (textQuery? text type).any (searches config)
  | _ => false

/-- The queries that come of the one that is asked. -/
def candidates (config : Config) : Operation → List Query
  | .resolve _ q | .resolveAll _ q | .resolveSequential _ q | .resolveSequentialWith _ q _ => [q]
  | .resolveSearch _ q => Resolver.candidates config q
  | .query _ text type => (textQuery? text type).elim [] (Resolver.candidates config)
  | .lookup .. => []

/-- An operation fails for a reason without an exchange. The error is returned itself, unless
search suffixes are tried: then there is one error for each of them, and they are collected. -/
structure Refused (config : Config) (reason : Error → Prop) (op : Operation) : Prop where
  exchanges_eq : op.exchanges config = []
  itself_iff : (∃ e, op.error? config = some e ∧ reason e) ↔ op.expands config = false
  collected : op.expands config = true → ∃ causes,
    op.error? config = some (.aggregate causes) ∧ causes.length = config.search.length
      ∧ ∀ e ∈ causes, reason e

variable {op : Operation} {reason : Error → Prop}

lemma refused_of_run {α : Type} {run : Run α} (hexchanges : op.exchanges config = run.exchanges)
    (herror : op.error? config = Selection.errorOf? run.result)
    (hexpands : op.expands config = false) (hrun : run = .ofResult (.error e))
    (hreason : reason e) : op.Refused config reason := by
  rw [hrun] at hexchanges herror
  exact ⟨hexchanges, ⟨fun _ => hexpands, fun _ => ⟨e, herror, hreason⟩⟩, by simp [hexpands]⟩

/-- A search is refused as its query is, or, where suffixes are tried, for all of them. -/
lemma refused_of_search {s : Nat → Surroundings} {query : Query}
    (hexchanges : op.exchanges config = (Resolver.resolveSearch config s query).exchanges)
    (herror : op.error? config = Selection.errorOf? (Resolver.resolveSearch config s query).result)
    (hexpands : op.expands config = searches config query)
    (hsingle : ∀ causes, ¬ reason (.aggregate causes))
    (h : ∀ q ∈ Resolver.candidates config query, ∃ e, Call.prepare config q = .error e ∧ reason e) :
    op.Refused config reason := by
  cases hsearches : searches config query with
  | true =>
    obtain ⟨causes, hrun, hlength, hcauses⟩ := resolveSearch_of_refused reason hsearches h
    rw [hrun] at hexchanges herror
    refine ⟨hexchanges, ?_, fun _ => ⟨causes, herror, hlength, hcauses⟩⟩
    rw [herror, hexpands, hsearches]
    simpa [Run.ofResult, Selection.errorOf?] using hsingle causes
  | false =>
    obtain ⟨e, he, hreason⟩ := h query (by simp [Resolver.candidates, hsearches])
    refine refused_of_run hexchanges herror (hexpands.trans hsearches) ?_ hreason
    rw [resolveSearch_of_not_searches hsearches, resolve_of_refused he]

/-- An operation is refused for the reason for which each query that comes of it cannot be sent, as
long as a blank text is refused for this reason too. -/
lemma refused_of_prepare {query : Query} (hasked : op.asked? = some query)
    (hsingle : ∀ causes, ¬ reason (.aggregate causes))
    (hblank : ∀ s text type, op = .query s text type → Text.trim text.toList = [] →
      reason (.invalidArgument .noName))
    (h : ∀ q ∈ op.candidates config, ∃ e, Call.prepare config q = .error e ∧ reason e) :
    op.Refused config reason := by
  cases op with
  | resolve s q =>
    obtain ⟨e, he, hreason⟩ := h q (List.mem_singleton_self q)
    exact refused_of_run rfl rfl rfl (resolve_of_refused he) hreason
  | resolveAll s q =>
    obtain ⟨e, he, hreason⟩ := h q (List.mem_singleton_self q)
    exact refused_of_run rfl rfl rfl (resolveAll_of_refused he) hreason
  | resolveSequential s q =>
    obtain ⟨e, he, hreason⟩ := h q (List.mem_singleton_self q)
    exact refused_of_run rfl rfl rfl (resolveSequentialWith_of_refused he) hreason
  | resolveSequentialWith s q accept =>
    obtain ⟨e, he, hreason⟩ := h q (List.mem_singleton_self q)
    exact refused_of_run rfl rfl rfl (resolveSequentialWith_of_refused he) hreason
  | resolveSearch s q => exact refused_of_search rfl rfl rfl hsingle h
  | query s text type =>
    rcases query_cases config s text type with
      ⟨htext, hrun⟩ | ⟨-, hnone, -⟩ | ⟨-, q, hq, hrun⟩
    · have hexpands : (Operation.query s text type).expands config = false := by
        rw [expands, textQuery?_of_blank htext]
        rfl
      exact refused_of_run rfl rfl hexpands hrun (hblank s text type rfl htext)
    · cases hnone.symm.trans hasked
    · refine refused_of_search (congrArg Run.exchanges hrun)
        (congrArg (fun run : Run Message => Selection.errorOf? run.result) hrun) ?_ hsingle ?_
      · rw [expands, hq]
        rfl
      · rw [candidates, hq] at h
        exact h
  | lookup s text => cases hasked

end Operation

/-- An operation on a query is refused before anything is exchanged: by a configuration with which
no server can be asked, and by every other one if each message that it may send is too large. -/
theorem refused_of_operation (config : Config) (op : Operation) (hop : op.asked?.isSome) :
    (config.IsUnusable → op.Refused config fun e => ∃ fault, e = .invalidArgument fault)
      ∧ (¬ config.IsUnusable → (∀ q ∈ op.candidates config, q.IsOversized config) →
        op.Refused config fun e =>
          ∃ q ∈ op.candidates config, e = .capacity q.wireLength config.maxQuery) := by
  obtain ⟨query, hasked⟩ := Option.isSome_iff_exists.mp hop
  constructor
  · intro hconfig
    refine Operation.refused_of_prepare hasked (by simp) (fun _ _ _ _ _ => ⟨_, rfl⟩) ?_
    intro q _
    obtain ⟨fault, hfault⟩ := Call.prepare_of_isUnusable q hconfig
    exact ⟨_, hfault, fault, rfl⟩
  · intro hconfig hsize
    refine Operation.refused_of_prepare hasked (by simp) ?_ ?_
    · -- A blank text is the root, whose message is small.
      rintro s text type rfl htext
      have hroot : ({ name := .root, type } : Query).IsOversized config := by
        refine hsize _ ?_
        rw [Operation.candidates, textQuery?_of_blank htext]
        exact List.mem_singleton_self _
      exact (not_isOversized_root config type hroot).elim
    · intro q hq
      exact ⟨_, Call.prepare_of_isOversized hconfig (hsize q hq), q, hq, rfl⟩

/-- A name of eight labels with 63 octets each. -/
def longName : Name := ⟨List.replicate 8 (.text (List.replicate 63 0x61))⟩

/-- One server, asked by UDP alone. -/
def udpOnly : Config := { oneServer with tcp := false }

/-- No servers, and one search suffix. -/
def suffixOnly : Config :=
  { Config.standard with servers := [], search := [⟨[.text [0x63, 0x6F, 0x6D]]⟩] }

theorem refused_of_operation_longName :
    suffixOnly.IsUnusable ∧ ¬ udpOnly.IsUnusable
      ∧ (∀ q ∈ (Operation.resolveAll cutOff { name := longName }).candidates udpOnly,
        q.IsOversized udpOnly)
      ∧ (Operation.resolveAll cutOff { name := longName }).Refused suffixOnly
        (fun e => ∃ fault, e = .invalidArgument fault)
      ∧ (Operation.resolveAll cutOff { name := longName }).Refused udpOnly
        (fun e => ∃ q ∈ (Operation.resolveAll cutOff { name := longName }).candidates udpOnly,
          e = .capacity q.wireLength 512) := by
  have hservers : suffixOnly.IsUnusable := Or.inl rfl
  have hconfig : ¬ udpOnly.IsUnusable := by
    rintro (hnil | ⟨hudp, -⟩)
    · cases hnil
    · cases hudp
  have hsize : ∀ q ∈ (Operation.resolveAll cutOff { name := longName }).candidates udpOnly,
      q.IsOversized udpOnly := by
    intro q hq
    obtain rfl := List.mem_singleton.mp hq
    exact Query.isOversized_iff.mpr (by decide)
  have hasked : (Operation.resolveAll cutOff { name := longName }).asked?.isSome := rfl
  exact ⟨hservers, hconfig, hsize, (refused_of_operation suffixOnly _ hasked).1 hservers,
    (refused_of_operation udpOnly _ hasked).2 hconfig hsize⟩

/-- Where a search suffix is tried, the error that no server is there is not returned itself. -/
theorem error_of_search_suffixOnly :
    suffixOnly.servers = []
      ∧ (Operation.resolveSearch (fun _ => cutOff) { name := ⟨[.text [0x61]]⟩ }).error? suffixOnly
        = some (.aggregate [.invalidArgument .noServers]) :=
  ⟨rfl, rfl⟩

end Resolver

end StubResolver
