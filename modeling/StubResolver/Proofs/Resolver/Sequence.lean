import StubResolver.Proofs.Resolver.Race

/-!
# Servers in turn

Servers that are asked one after the other are asked in their order in the configuration, up to the
first whose response is accepted, and no server behind it is contacted. If there is no such server,
each is asked once, and what speaks against each is collected in that order. Whether this finds a
response without an error does not differ from a race between the same servers.
-/

namespace StubResolver

/-- The same surroundings, but every attempt can be started beside others. -/
def Surroundings.allStarted (s : Surroundings) : Surroundings :=
  { s with unstarted := fun _ => none }

namespace Call

variable {c : Call} {s s' : Surroundings} {accept : Message → Bool} {i k : Nat}
  {server : Endpoint} {m : Message} {e : Error} {causes : List Error}

/-! ### One server -/

/-- The result of the attempt with the server with a number, if there is such a server. -/
def result? (c : Call) (s : Surroundings) (i : Nat) : Option (Except Error Message) :=
  c.config.endpoints[i]?.map fun server => (c.attempt s i server).result

/-- What the attempt with the server with a number is blamed on. -/
def BlamedAt (c : Call) (s : Surroundings) (i : Nat) (causes : List Error) : Prop :=
  ∃ server, c.config.endpoints[i]? = some server ∧ c.Blamed s i server causes

lemma outcome?_allStarted (c : Call) (s : Surroundings) :
    c.outcome? s.allStarted = c.result? s := rfl

lemma result?_of_some (h : c.config.endpoints[i]? = some server) :
    c.result? s i = some (c.attempt s i server).result := by
  rw [result?, h, Option.map_some]

/-- A server gives its response by UDP if this is whole and answers the query. -/
lemma exists_result?_of_answer {d : Delivery} (hserver : c.config.endpoints[i]? = some server)
    (hudp : c.useUdp = true) (hsend : send s i (c.exchange s i server .udp) = .ok d)
    (hcut : Message.isTruncated d.octets = false) (hdecode : Message.decode d.octets = .ok m)
    (hcheck : check c.query s.id m = .ok ()) :
    ∃ m', c.result? s i = some (.ok m') ∧ m'.header = m.header := by
  rw [result?_of_some hserver]
  simp only [attempt, hudp, hsend, hcut, Bool.and_false, Bool.false_eq_true, if_true, if_false]
  rw [accept, hdecode, ok_bind, hcheck]
  exact ⟨_, rfl, rfl⟩

lemma blamedAt_of_result? (h : c.result? s i = some (.error e)) : c.BlamedAt s i e.causes := by
  obtain ⟨server, hserver, hresult⟩ := Option.map_eq_some_iff.mp h
  exact ⟨server, hserver, blamed_of_attempt hresult⟩

/-- The server with a number is passed over, and these errors are kept: the status of its response
if it was not accepted, and what its attempt is blamed on if it failed. -/
inductive PassedOver (c : Call) (s : Surroundings) (accept : Message → Bool) (i : Nat) :
    List Error → Prop where
  | refused {m : Message} (hm : c.result? s i = some (.ok m)) (haccept : accept m = false) :
    PassedOver c s accept i [.status m.header.rcode]
  | failed {e : Error} (he : c.result? s i = some (.error e)) (hblamed : c.BlamedAt s i e.causes) :
    PassedOver c s accept i e.causes

lemma PassedOver.of_ok (h : c.PassedOver s accept i causes) (hm : c.result? s i = some (.ok m)) :
    accept m = false ∧ causes = [.status m.header.rcode] := by
  cases h with
  | refused hm' haccept =>
    cases hm.symm.trans hm'
    exact ⟨haccept, rfl⟩
  | failed he => cases hm.symm.trans he

lemma PassedOver.of_error (h : c.PassedOver s accept i causes)
    (he : c.result? s i = some (.error e)) : causes = e.causes := by
  cases h with
  | refused hm => cases he.symm.trans hm
  | failed he' =>
    cases he.symm.trans he'
    rfl

/-- A server either ends the sequence, with a response that is accepted, or is passed over. -/
lemma accepted_or_passedOver (hserver : c.config.endpoints[i]? = some server) :
    (∃ m, c.result? s i = some (.ok m) ∧ accept m = true)
      ∨ ∃ causes, c.PassedOver s accept i causes := by
  cases hresult : (c.attempt s i server).result with
  | error e =>
    have he : c.result? s i = some (.error e) := by rw [result?_of_some hserver, hresult]
    exact Or.inr ⟨e.causes, .failed he (blamedAt_of_result? he)⟩
  | ok m =>
    have hm : c.result? s i = some (.ok m) := by rw [result?_of_some hserver, hresult]
    cases haccept : accept m with
    | true => exact Or.inl ⟨m, hm, haccept⟩
    | false => exact Or.inr ⟨_, .refused hm haccept⟩

/-! ### All servers -/

/-- What asking the servers in turn comes to: the response of the first server that is not passed
over, or what is kept of all. -/
inductive InTurn (c : Call) (s : Surroundings) (accept : Message → Bool) : Run Message → Prop where
  | accepted {k : Nat} {m : Message} {causes : List (List Error)}
      (hbefore : List.Forall₂ (c.PassedOver s accept) (List.range k) causes)
      (hm : c.result? s k = some (.ok m)) (haccept : accept m = true) :
    InTurn c s accept ⟨.ok m, (List.range (k + 1)).flatMap (c.exchangesAt s)⟩
  | exhausted {causes : List (List Error)}
      (hall : List.Forall₂ (c.PassedOver s accept) (List.range c.config.servers.length) causes) :
    InTurn c s accept ⟨.error (.aggregate causes.flatten),
      (List.range c.config.servers.length).flatMap (c.exchangesAt s)⟩

variable {run : Run Message}

lemma exists_passedOver {causes : List (List Error)}
    (h : List.Forall₂ (c.PassedOver s accept) (List.range k) causes) (hi : i < k) :
    ∃ own, c.PassedOver s accept i own := by
  obtain ⟨own, -, hown⟩ := exists_of_mem_left h (List.mem_range.mpr hi)
  exact ⟨own, hown⟩

/-- A response is returned exactly if one is accepted from some server. -/
lemma InTurn.exists_ok_iff (h : c.InTurn s accept run) :
    (∃ m, run.result = .ok m) ↔ ∃ k m, c.result? s k = some (.ok m) ∧ accept m = true := by
  cases h with
  | accepted hbefore hm haccept => exact ⟨fun _ => ⟨_, _, hm, haccept⟩, fun _ => ⟨_, rfl⟩⟩
  | exhausted hall =>
    constructor
    · rintro ⟨m, ⟨⟩⟩
    · rintro ⟨k, m, hm, haccept⟩
      obtain ⟨server, hserver, -⟩ := Option.map_eq_some_iff.mp hm
      obtain ⟨own, hown⟩ := exists_passedOver hall (Config.lt_of_endpoint hserver)
      cases (hown.of_ok hm).1.symm.trans haccept

lemma InTurn.exists_range (h : c.InTurn s accept run) :
    ∃ k, run.exchanges = (List.range k).flatMap (c.exchangesAt s) := by
  cases h with
  | accepted => exact ⟨_, rfl⟩
  | exhausted => exact ⟨_, rfl⟩

lemma InTurn.exists_attempt_of_mem {x : Exchange} (h : c.InTurn s accept run)
    (hx : x ∈ run.exchanges) : ∃ j server, x ∈ (c.attempt s j server).exchanges := by
  obtain ⟨k, hk⟩ := h.exists_range
  obtain ⟨j, -, hj⟩ := List.mem_flatMap.mp (hk ▸ hx)
  obtain ⟨server, -, hmem⟩ := mem_exchangesAt.mp hj
  exact ⟨j, server, hmem⟩

/-- The response that is returned is that of an attempt, whose exchanges were made. -/
lemma InTurn.exists_attempt (h : c.InTurn s accept run) (hm : run.result = .ok m) :
    ∃ k server, c.config.endpoints[k]? = some server ∧ (c.attempt s k server).result = .ok m
      ∧ (c.attempt s k server).exchanges ⊆ run.exchanges := by
  cases h with
  | @accepted k m' causes hbefore hm' haccept =>
    cases hm
    obtain ⟨server, hserver, hresult⟩ := Option.map_eq_some_iff.mp hm'
    refine ⟨k, server, hserver, hresult, fun x hx => List.mem_flatMap.mpr ⟨k, ?_, ?_⟩⟩
    · exact List.mem_range.mpr (Nat.lt_succ_self k)
    · exact mem_exchangesAt.mpr ⟨server, hserver, hx⟩
  | exhausted => cases hm

/-- What asking the servers of a call in turn does. The first response that is accepted is returned,
and what is exchanged are the attempts up to the one that it came from. If none is accepted, there
is one attempt with each server, and what is kept of each is reported. -/
structure AsksInTurn (c : Call) (s : Surroundings) (accept : Message → Bool) (run : Run Message) :
    Prop where
  of_accepted : ∀ k m, c.result? s k = some (.ok m) → accept m = true →
    (∀ j < k, ∀ m', c.result? s j = some (.ok m') → accept m' = false) →
    run = ⟨.ok m, (List.range (k + 1)).flatMap (c.exchangesAt s)⟩
  of_none : (∀ k m, c.result? s k = some (.ok m) → accept m = false) → ∃ causes,
    List.Forall₂ (c.PassedOver s accept) (List.range c.config.servers.length) causes ∧
      run = ⟨.error (.aggregate causes.flatten),
        (List.range c.config.servers.length).flatMap (c.exchangesAt s)⟩

lemma InTurn.asksInTurn (h : c.InTurn s accept run) : c.AsksInTurn s accept run := by
  cases h with
  | @accepted k m causes hbefore hm haccept =>
    refine ⟨fun k' m' hm' haccept' hfirst => ?_, fun hnone => ?_⟩
    · -- Neither server stands in front of the other, as each is the first.
      rcases Nat.lt_trichotomy k k' with hlt | rfl | hlt
      · cases (hfirst k hlt m hm).symm.trans haccept
      · cases hm.symm.trans hm'
        rfl
      · obtain ⟨own, hown⟩ := exists_passedOver hbefore hlt
        cases (hown.of_ok hm').1.symm.trans haccept'
    · cases (hnone k m hm).symm.trans haccept
  | exhausted hall =>
    refine ⟨fun k m hm haccept _ => ?_, fun _ => ⟨_, hall, rfl⟩⟩
    obtain ⟨m', hm'⟩ := (InTurn.exhausted hall).exists_ok_iff.mpr ⟨k, m, hm, haccept⟩
    cases hm'

end Call

namespace Resolver

open Call

variable {c : Call} {s s' : Surroundings} {accept : Message → Bool} {i : Nat} {server : Endpoint}
  {servers : List Endpoint} {failed causes : List Error} {m : Message}

lemma tryFrom_of_accepted (hserver : c.config.endpoints[i]? = some server)
    (hm : c.result? s i = some (.ok m)) (haccept : accept m = true) :
    tryFrom c s accept failed i (server :: servers) = ⟨.ok m, c.exchangesAt s i⟩ := by
  rw [result?_of_some hserver, Option.some.injEq] at hm
  simp only [tryFrom, hm, haccept, if_true, exchangesAt_of_some hserver]
  rw [← hm]

lemma tryFrom_of_passedOver (hserver : c.config.endpoints[i]? = some server)
    (h : c.PassedOver s accept i causes) :
    tryFrom c s accept failed i (server :: servers)
      = { tryFrom c s accept (failed ++ causes) (i + 1) servers with
          exchanges := c.exchangesAt s i
            ++ (tryFrom c s accept (failed ++ causes) (i + 1) servers).exchanges } := by
  rw [exchangesAt_of_some hserver]
  cases h with
  | refused hm haccept =>
    rw [result?_of_some hserver, Option.some.injEq] at hm
    simp [tryFrom, hm, haccept]
  | failed he =>
    rw [result?_of_some hserver, Option.some.injEq] at he
    simp [tryFrom, he]

/-- Where the servers in front were passed over, the rest is asked with what is kept of these. -/
lemma inTurn_of_drop {causes : List (List Error)} (hservers : servers = c.config.endpoints.drop i)
    (hi : i ≤ c.config.servers.length)
    (hbefore : List.Forall₂ (c.PassedOver s accept) (List.range i) causes) :
    c.InTurn s accept { tryFrom c s accept causes.flatten i servers with
      exchanges := (List.range i).flatMap (c.exchangesAt s)
        ++ (tryFrom c s accept causes.flatten i servers).exchanges } := by
  induction servers generalizing i causes with
  | nil =>
    have hend : i = c.config.servers.length := by
      have hlength := List.drop_eq_nil_iff.mp hservers.symm
      rw [Config.endpoints, List.length_map] at hlength
      exact Nat.le_antisymm hi hlength
    rw [tryFrom, Run.ofResult, List.append_nil, hend]
    exact .exhausted (hend ▸ hbefore)
  | cons server servers ih =>
    have hserver : c.config.endpoints[i]? = some server := by
      rw [← List.head?_drop, ← hservers, List.head?_cons]
    have hrest : servers = c.config.endpoints.drop (i + 1) := by
      rw [← List.tail_drop, ← hservers, List.tail_cons]
    have hexchanges : (List.range (i + 1)).flatMap (c.exchangesAt s)
        = (List.range i).flatMap (c.exchangesAt s) ++ c.exchangesAt s i := by
      rw [List.range_succ, List.flatMap_append, List.flatMap_singleton]
    rcases accepted_or_passedOver hserver with ⟨m, hm, haccept⟩ | ⟨own, hown⟩
    · rw [tryFrom_of_accepted hserver hm haccept, ← hexchanges]
      exact .accepted hbefore hm haccept
    · have hpassed :
          List.Forall₂ (c.PassedOver s accept) (List.range (i + 1)) (causes ++ [own]) := by
        rw [List.range_succ]
        exact List.rel_append hbefore (.cons hown .nil)
      have hrun := ih hrest (Config.lt_of_endpoint hserver) hpassed
      rw [hexchanges, List.flatten_append, List.flatten_singleton, List.append_assoc] at hrun
      rw [tryFrom_of_passedOver hserver hown]
      exact hrun

/-- Servers are asked in turn. -/
lemma inTurn_tryFrom (c : Call) (s : Surroundings) (accept : Message → Bool) :
    c.InTurn s accept (tryFrom c s accept [] 0 c.config.endpoints) :=
  inTurn_of_drop List.drop_zero.symm (Nat.zero_le _) .nil

variable {config : Config} {query : Query}

lemma resolveSequentialWith_of_prepare (h : Call.prepare config query = .ok c) :
    resolveSequentialWith config s query accept = tryFrom c s accept [] 0 c.config.endpoints := by
  simp only [resolveSequentialWith, h]

/-- Servers that are asked in turn give a response without an error exactly if a race between them
does, whatever the order in which their attempts end. -/
lemma resolveSequential_ok_iff (h : Call.prepare config query = .ok c)
    (hs' : s'.Reports config.servers.length) (hsame : c.SameOutcomes s.allStarted s') :
    (∃ m, (resolveSequential config s query).result = .ok m)
      ↔ ∃ m, (resolve config s' query).result = .ok m ∧ m.isNoError := by
  obtain ⟨rfl, -⟩ := Call.of_prepare h
  rw [resolveSequential, resolveSequentialWith_of_prepare h, (inTurn_tryFrom c s _).exists_ok_iff,
    resolve_of_prepare h, Selection.exists_race_isNoError_iff, ← outcome?_allStarted,
    hsame.outcome?_eq]
  exact exists_outcome?_iff hs'

/-- A query that can be sent is sent to the servers in turn, whatever responses are accepted. With
those that report no error, a response is returned exactly if the race between the servers gives
such a response for every order in which the attempts end, as long as they come to the same. -/
theorem asksInTurn_of_prepare (h : Call.prepare config query = .ok c) (s : Surroundings) :
    (∀ accept, c.AsksInTurn s accept (resolveSequentialWith config s query accept))
      ∧ ((∃ m, (resolveSequential config s query).result = .ok m)
        ↔ ∀ s' : Surroundings, s'.Reports config.servers.length → c.SameOutcomes s.allStarted s' →
          ∃ m, (resolve config s' query).result = .ok m ∧ m.isNoError) := by
  refine ⟨fun accept => ?_, fun hok s' hs' hsame => ?_, fun hall => ?_⟩
  · rw [resolveSequentialWith_of_prepare h]
    exact (inTurn_tryFrom c s accept).asksInTurn
  · exact (resolveSequential_ok_iff h hs' hsame).mp hok
  · -- The attempts may end in the order of the servers.
    let inOrder : Surroundings := { s.allStarted with order := List.range config.servers.length }
    have hreports : inOrder.Reports config.servers.length := List.Perm.refl _
    have hsame : c.SameOutcomes s.allStarted inOrder := fun i server _ => rfl
    exact (resolveSequential_ok_iff h hreports hsame).mpr (hall inOrder hreports hsame)

/-- Three servers on the same host. -/
def threeServers : Config :=
  { twoServers with servers := twoServers.servers ++ [.v4 (.ofOctets 127 0 0 3)] }

/-- A response without records to the question for the addresses of the root. -/
def statusOnly (rcode : ResponseCode) : Message where
  header := { id := 7, direction := .response, rcode }
  questions := [{ name := .root }]

/-- The first server cannot be reached, the second refuses to answer, and the third answers. -/
def mixed : Surroundings where
  id := 7
  bits := fun _ _ _ => false
  reply := fun i _ =>
    match i with
    | 0 => .error "timed out"
    | 1 => .ok { octets := [0, 7, 0x80, 5, 0, 1, 0, 0, 0, 0, 0, 0, 0, 0, 1, 0, 1] }
    | _ => .ok { octets := [0, 7, 0x80, 0, 0, 1, 0, 0, 0, 0, 0, 0, 0, 0, 1, 0, 1] }
  order := []

/-- The third response is returned, or the errors of three servers if none is good enough. -/
theorem asksInTurn_of_prepare_mixed :
    let c : Call := ⟨threeServers, { name := .root }, true⟩
    Call.prepare threeServers { name := .root } = .ok c ∧
      (∃ m, resolveSequential threeServers mixed { name := .root }
        = ⟨.ok m, [0, 1, 2].flatMap (c.exchangesAt mixed)⟩) ∧
      ∃ udpError tcpError,
        (resolveSequentialWith threeServers mixed { name := .root } fun _ => false)
          = ⟨.error (.aggregate [udpError, tcpError, .status .refused, .status .noError]),
            [0, 1, 2].flatMap (c.exchangesAt mixed)⟩ := by
  intro c
  have hprepare : Call.prepare threeServers { name := .root } = .ok c := rfl
  have h := (asksInTurn_of_prepare hprepare mixed).1
  obtain ⟨m, hm, hheader⟩ : ∃ m, c.result? mixed 1 = some (.ok m)
      ∧ m.header = (statusOnly .refused).header :=
    exists_result?_of_answer rfl rfl rfl rfl
      (Message.decode_of_encode (m := statusOnly .refused) ⟨by decide, by decide⟩ rfl) rfl
  obtain ⟨m', hm', hheader'⟩ : ∃ m, c.result? mixed 2 = some (.ok m)
      ∧ m.header = (statusOnly .noError).header :=
    exists_result?_of_answer rfl rfl rfl rfl
      (Message.decode_of_encode (m := statusOnly .noError) ⟨by decide, by decide⟩ rfl) rfl
  obtain ⟨udpError, tcpError, hfailed⟩ : ∃ udpError tcpError,
      c.result? mixed 0 = some (.error (.aggregate [udpError, tcpError])) := ⟨_, _, rfl⟩
  refine ⟨hprepare, ⟨m', ?_⟩, udpError, tcpError, ?_⟩
  · refine (h Message.isNoError).of_accepted 2 m' hm' (by rw [Message.isNoError, hheader']; rfl) ?_
    rintro (_ | _ | j) hj m'' hm''
    · cases hfailed.symm.trans hm''
    · cases hm.symm.trans hm''
      rw [Message.isNoError, hheader]
      rfl
    · omega
  · obtain ⟨causes, hcauses, hrun⟩ := (h fun _ => false).of_none fun _ _ _ => rfl
    rw [hrun]
    have hcauses : List.Forall₂ (c.PassedOver mixed fun _ => false) [0, 1, 2] causes := hcauses
    obtain _ | ⟨h0, _ | ⟨h1, _ | ⟨h2, _ | _⟩⟩⟩ := hcauses
    rw [h0.of_error hfailed, (h1.of_ok hm).2, (h2.of_ok hm').2, hheader, hheader']
    rfl

end Resolver

end StubResolver
