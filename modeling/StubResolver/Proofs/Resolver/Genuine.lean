import StubResolver.Proofs.Resolver.Sequence

/-!
# Genuine answers

Whatever a resolver returns came back from one of its servers in one of the exchanges of the call,
carries the identifier of the requests, and answers the question that was asked.
-/

namespace StubResolver

variable {s : Surroundings} {m : Message} {exchanges : List Exchange}

/-- A message came back from a configured server in one of the exchanges of a call for a query, and
answers the query. -/
structure Genuine (config : Config) (s : Surroundings) (query : Query)
    (exchanges : List Exchange) (m : Message) : Prop where
  received : ∃ i, ∃ e ∈ exchanges, ∃ d, s.reply i e = .ok d
    ∧ config.servers[i]? = some e.server.ip ∧ e.server.port = config.port
    ∧ Message.decode d.octets = .ok { m with provenance := none }
    ∧ m.provenance = some ⟨d.start, d.duration, e.server, e.protocol, e.request.length,
      d.octets.length⟩
  id_eq : m.header.id = s.id
  id_sent : ∀ e ∈ exchanges, Octets.ofUInt16 m.header.id <+: e.request
  direction_eq : m.header.direction = .response
  asked : ∃ p, m.questions = [p] ∧ query.name.same p.name ∧ p.type = query.type
    ∧ p.cls = query.cls

namespace Call

variable {c : Call} {i : Nat}

/-! ### One attempt -/

/-- The response of an attempt is genuine where the exchanges of other attempts with the same call
are made beside its own. -/
lemma genuine_of_attempt {server : Endpoint} (hserver : c.config.endpoints[i]? = some server)
    (h : (c.attempt s i server).result = .ok m)
    (hsub : (c.attempt s i server).exchanges ⊆ exchanges)
    (hmade : ∀ e ∈ exchanges, ∃ j server, e ∈ (c.attempt s j server).exchanges) :
    Genuine c.config s c.query exchanges m := by
  obtain ⟨e, he, rfl, d, hd, haccept⟩ := accepts_of_attempt h
  obtain ⟨hdecode, hprovenance, hid, hdirection, p, hp, hasks⟩ := of_accept haccept
  rw [Config.endpoints, List.getElem?_map, Option.map_eq_some_iff] at hserver
  obtain ⟨ip, hip, hendpoint⟩ := hserver
  refine ⟨⟨i, e, hsub he, d, hd, ?_, ?_, hdecode, hprovenance⟩, hid, ?_, hdirection, p, hp,
    asks_iff.mp hasks⟩
  · rw [hip, ← hendpoint]
  · rw [← hendpoint]
  · intro e' he'
    obtain ⟨j, server, hmem⟩ := hmade e' he'
    obtain ⟨protocol, rfl⟩ := exists_protocol_of_attempt hmem
    rw [hid]
    exact prefix_request j protocol

/-! ### Attempts at once -/

lemma genuine_of_mem_attempts (h : .ok m ∈ (c.attempts s).map (·.result)) :
    Genuine c.config s c.query ((c.attempts s).flatMap (·.exchanges)) m := by
  obtain ⟨run, hrun, hm⟩ := List.mem_map.mp h
  obtain ⟨i, -, server, hserver, rfl⟩ := mem_attempts.mp hrun
  rw [launch_of_ok hm] at hrun hm
  refine genuine_of_attempt hserver hm ?_ ?_
  · intro e he
    exact List.mem_flatMap.mpr ⟨_, hrun, he⟩
  · intro e he
    obtain ⟨run, hrun, he⟩ := List.mem_flatMap.mp he
    obtain ⟨j, -, server, -, rfl⟩ := mem_attempts.mp hrun
    exact ⟨j, server, mem_exchanges_attempt he⟩

end Call

namespace Resolver

/-! ### The entry points -/

variable {config : Config} {query : Query} {accept : Message → Bool}

lemma genuine_of_resolve (h : (resolve config s query).result = .ok m) :
    Genuine config s query (resolve config s query).exchanges m := by
  unfold resolve at h ⊢
  split at h
  next => cases h
  next call hcall =>
    obtain ⟨rfl, rfl⟩ := Call.of_prepare hcall
    exact Call.genuine_of_mem_attempts (Selection.mem_of_race h)

lemma genuine_of_resolveAll {ms : List Message}
    (h : (resolveAll config s query).result = .ok ms) (hm : m ∈ ms) :
    Genuine config s query (resolveAll config s query).exchanges m := by
  unfold resolveAll at h ⊢
  split at h
  next => cases h
  next call hcall =>
    obtain ⟨rfl, rfl⟩ := Call.of_prepare hcall
    exact Call.genuine_of_mem_attempts (Selection.mem_of_collect h hm)

lemma genuine_of_resolveSequentialWith
    (h : (resolveSequentialWith config s query accept).result = .ok m) :
    Genuine config s query (resolveSequentialWith config s query accept).exchanges m := by
  unfold resolveSequentialWith at h ⊢
  split at h
  next => cases h
  next c hprepare =>
    obtain ⟨rfl, rfl⟩ := Call.of_prepare hprepare
    have hturn := inTurn_tryFrom c s accept
    obtain ⟨k, server, hserver, hm, hsub⟩ := hturn.exists_attempt h
    exact Call.genuine_of_attempt hserver hm hsub fun e he => hturn.exists_attempt_of_mem he

/-- A message is genuine for a query, or, where the search suffixes are tried, for the query with
one of them, in the exchanges that are made for this suffix. -/
def GenuineInSearch (config : Config) (s : Nat → Surroundings) (query : Query)
    (exchanges : List Exchange) (m : Message) : Prop :=
  if searches config query then
    ∃ i suffix, config.search[i]? = some suffix ∧ ∃ exchanges' ⊆ exchanges,
      exchanges'
          = (resolve config (s i) (query.withName (query.name.join suffix))).exchanges
        ∧ Genuine config (s i) (query.withName (query.name.join suffix)) exchanges' m
  else Genuine config (s 0) query exchanges m

lemma genuineInSearch_of_resolveSearch {s : Nat → Surroundings}
    (h : (resolveSearch config s query).result = .ok m) :
    GenuineInSearch config s query (resolveSearch config s query).exchanges m := by
  unfold GenuineInSearch
  unfold resolveSearch at h ⊢
  split_ifs at h ⊢
  · obtain ⟨run, hrun, hm⟩ := List.mem_map.mp (Selection.mem_of_pick h)
    obtain ⟨i, hi, rfl⟩ := List.mem_mapIdx.mp hrun
    refine ⟨i, config.search[i], List.getElem?_eq_getElem hi, _, ?_, rfl, genuine_of_resolve hm⟩
    intro e he
    exact List.mem_flatMap.mpr ⟨_, hrun, he⟩
  · exact genuine_of_resolve h

/-- Every message that a resolver returns is genuine, whatever comes back from the servers and in
whatever order. -/
theorem genuine_of_result (config : Config) :
    (∀ s query m, (resolve config s query).result = .ok m →
        Genuine config s query (resolve config s query).exchanges m)
      ∧ (∀ s query ms, (resolveAll config s query).result = .ok ms → ∀ m ∈ ms,
        Genuine config s query (resolveAll config s query).exchanges m)
      ∧ (∀ s query accept m, (resolveSequentialWith config s query accept).result = .ok m →
        Genuine config s query (resolveSequentialWith config s query accept).exchanges m)
      ∧ (∀ s query m, (resolveSequential config s query).result = .ok m →
        Genuine config s query (resolveSequential config s query).exchanges m)
      ∧ (∀ s query m, (resolveSearch config s query).result = .ok m →
        GenuineInSearch config s query (resolveSearch config s query).exchanges m)
      ∧ (∀ s text type m, (Resolver.query config s text type).result = .ok m →
        ∃ name, Name.parse (String.ofList (Text.trim text.toList)) = .ok name
          ∧ GenuineInSearch config s { name, type }
            (Resolver.query config s text type).exchanges m) := by
  refine ⟨?_, ?_, ?_, ?_, ?_, ?_⟩
  · intro s query m h
    exact genuine_of_resolve h
  · intro s query ms h m hm
    exact genuine_of_resolveAll h hm
  · intro s query accept m h
    exact genuine_of_resolveSequentialWith h
  · intro s query m h
    exact genuine_of_resolveSequentialWith h
  · intro s query m h
    exact genuineInSearch_of_resolveSearch h
  · intro s text type m h
    unfold Resolver.query at h ⊢
    dsimp only at h ⊢
    split_ifs at h ⊢
    · cases h
    · cases hname : Name.parse (String.ofList (Text.trim text.toList)) with
      | error e =>
        rw [hname] at h
        cases h
      | ok name =>
        simp only [hname] at h ⊢
        exact ⟨name, rfl, genuineInSearch_of_resolveSearch h⟩

/-- The response to a question for the addresses of a name, in other letters than it was asked. -/
def echo : Message where
  header := { id := 7, direction := .response }
  questions := [{ name := ⟨[.text [0x41]]⟩ }]

/-- One server, which cuts its response off where it is asked by UDP. -/
def cutOff : Surroundings where
  id := 7
  bits := fun _ _ _ => false
  reply := fun _ e =>
    match e.protocol with
    | .udp => .ok { octets := [0, 7, 0x82, 0, 0, 0, 0, 0, 0, 0, 0, 0] }
    | .tcp => .ok { octets := [0, 7, 0x80, 0, 0, 1, 0, 0, 0, 0, 0, 0, 1, 0x41, 0, 0, 1, 0, 1],
                    start := 5, duration := { seconds := 9 } }
  order := [0]

/-- One server on the same host, asked by both protocols. -/
def oneServer : Config := { Config.standard with servers := [.v4 (.ofOctets 127 0 0 1)] }

theorem genuine_echo :
    ∃ m, (resolve oneServer cutOff { name := ⟨[.text [0x61]]⟩ }).result = .ok m
      ∧ Genuine oneServer cutOff { name := ⟨[.text [0x61]]⟩ }
        (resolve oneServer cutOff { name := ⟨[.text [0x61]]⟩ }).exchanges m := by
  have hdecode : Message.decode
      [0, 7, 0x80, 0, 0, 1, 0, 0, 0, 0, 0, 0, 1, 0x41, 0, 0, 1, 0, 1] = .ok echo :=
    Message.decode_of_encode (m := echo) ⟨by decide, by decide⟩ rfl
  have hresult : (resolve oneServer cutOff { name := ⟨[.text [0x61]]⟩ }).result
      = .ok { echo with
          provenance :=
            some ⟨5, { seconds := 9 }, ⟨.v4 (.ofOctets 127 0 0 1), 53⟩, .tcp, 19, 19⟩ } := by
    have hrace : (resolve oneServer cutOff { name := ⟨[.text [0x61]]⟩ }).result
        = Selection.race [Message.decode
            [0, 7, 0x80, 0, 0, 1, 0, 0, 0, 0, 0, 0, 1, 0x41, 0, 0, 1, 0, 1] >>= fun m =>
          (Call.check { name := ⟨[.text [0x61]]⟩ } 7 m).mapError
            (.validation ⟨.v4 (.ofOctets 127 0 0 1), 53⟩) >>= fun _ =>
          .ok { m with
            provenance :=
              some ⟨5, { seconds := 9 }, ⟨.v4 (.ofOctets 127 0 0 1), 53⟩, .tcp, 19, 19⟩ }] := rfl
    rw [hrace, hdecode]
    rfl
  exact ⟨_, hresult, (genuine_of_result oneServer).1 cutOff _ _ hresult⟩

end Resolver

end StubResolver
