import StubResolver.Proofs.Message.Query
import StubResolver.Resolver.Attempt

/-!
# What an attempt does

An attempt makes the exchanges of its call with one server. If it succeeds, its response came back
in one of them and was accepted. Beside others it does the same, unless it cannot be started.
-/

namespace StubResolver

namespace Call

variable {c : Call} {s : Surroundings} {i : Nat} {server : Endpoint} {m : Message} {e : Exchange}

/-- A call that can be sent is the one that was asked for. -/
lemma of_prepare {config : Config} {query : Query} (h : prepare config query = .ok c) :
    c.config = config ∧ c.query = query := by
  unfold prepare at h
  dsimp only at h
  split_ifs at h
  cases h
  exact ⟨rfl, rfl⟩

/-- Attempts begin with UDP where it is allowed and the query is small enough, and otherwise TCP is
allowed. -/
lemma useUdp_of_prepare {config : Config} {query : Query} (h : prepare config query = .ok c) :
    (c.useUdp = true ↔ config.udp = true ∧ query.wireLength ≤ maxUdpQuery)
      ∧ (c.useUdp = false → config.tcp = true) := by
  unfold prepare at h
  dsimp only at h
  split_ifs at h with _ _ hcapacity
  cases h
  refine ⟨by simp, fun hudp => ?_⟩
  rw [show (config.udp && decide (query.wireLength ≤ maxUdpQuery)) = false from hudp] at hcapacity
  simpa using hcapacity

/-! ### One exchange -/

lemma prefix_request (i : Nat) (protocol : Protocol) :
    Octets.ofUInt16 s.id <+: c.request s i protocol := by
  simp only [request, Query.encode, List.append_assoc]
  exact List.prefix_append _ _

/-- A request has the size of its query, whatever the case of its letters. -/
lemma length_request (c : Call) (s : Surroundings) (i : Nat) (protocol : Protocol) :
    (c.request s i protocol).length = c.query.wireLength := by
  unfold request
  dsimp only
  split_ifs
  · rw [Query.length_encode, Query.wireLength_recase]
  · rw [Query.length_encode]

lemma asks_iff {q : Query} {p : Question} :
    q.asks p ↔ q.name.same p.name ∧ p.type = q.type ∧ p.cls = q.cls := by
  rw [Query.asks, Bool.and_eq_true, Bool.and_eq_true, beq_iff_eq, beq_iff_eq, and_assoc,
    eq_comm (a := q.type), eq_comm (a := q.cls)]

lemma check_eq_ok_iff {q : Query} {id : UInt16} : check q id m = .ok () ↔
    m.header.id = id ∧ m.header.direction = .response ∧ ∃ p, m.questions = [p] ∧ q.asks p := by
  unfold check
  split_ifs with hid hdirection
  · simp [hid]
  · simp [hdirection]
  · rw [not_not] at hid hdirection
    split
    next p hp => split_ifs with hasks <;> simp [hid, hdirection, hp, hasks]
    next hne =>
      simp only [reduceCtorEq, false_iff, not_and, not_exists]
      intro _ _ p hp
      exact (hne p hp).elim

/-- What a response is that was accepted. -/
lemma of_accept {d : Delivery} (h : c.accept s e d = .ok m) :
    Message.decode d.octets = .ok { m with provenance := none }
      ∧ m.provenance = some ⟨d.start, d.duration, e.server, e.protocol, e.request.length,
        d.octets.length⟩
      ∧ m.header.id = s.id ∧ m.header.direction = .response
      ∧ ∃ p, m.questions = [p] ∧ c.query.asks p := by
  obtain ⟨m', hm', h⟩ := except_bind_eq_ok_iff.mp h
  obtain ⟨⟨⟩, hcheck, h⟩ := except_bind_eq_ok_iff.mp h
  have hprovenance := (Message.isRead_of_decode hm').provenance_eq
  cases h
  refine ⟨?_, rfl, check_eq_ok_iff.mp (mapError_eq_ok_iff.mp hcheck)⟩
  rw [hm', ← hprovenance]

/-! ### The course of an attempt -/

/-- What an attempt with a server comes to. -/
inductive Attempted (c : Call) (s : Surroundings) (i : Nat) (server : Endpoint) :
    Run Message → Prop where
  /-- The call does not begin with UDP. -/
  | direct (hudp : c.useUdp = false) : Attempted c s i server (c.overTcp s i server)
  /-- UDP failed, and TCP is tried. -/
  | retried {udpError : Error} (hudp : c.useUdp = true) (htcp : c.config.tcp = true)
      (hsend : send s i (c.exchange s i server .udp) = .error udpError) :
      Attempted c s i server
        ⟨(c.overTcp s i server).result.mapError fun tcpError => .aggregate [udpError, tcpError],
          c.exchange s i server .udp :: (c.overTcp s i server).exchanges⟩
  /-- UDP failed, and nothing else is tried. -/
  | failed {udpError : Error} (hudp : c.useUdp = true) (htcp : c.config.tcp = false)
      (hsend : send s i (c.exchange s i server .udp) = .error udpError) :
      Attempted c s i server ⟨.error udpError, [c.exchange s i server .udp]⟩
  /-- The response by UDP was cut off, and TCP is tried. -/
  | truncated {d : Delivery} (hudp : c.useUdp = true) (htcp : c.config.tcp = true)
      (hsend : send s i (c.exchange s i server .udp) = .ok d)
      (hcut : Message.isTruncated d.octets = true) :
      Attempted c s i server
        ⟨(c.overTcp s i server).result,
          c.exchange s i server .udp :: (c.overTcp s i server).exchanges⟩
  /-- The response by UDP is taken. -/
  | answered {d : Delivery} (hudp : c.useUdp = true)
      (hsend : send s i (c.exchange s i server .udp) = .ok d)
      (hcut : (c.config.tcp && Message.isTruncated d.octets) = false) :
      Attempted c s i server
        ⟨c.accept s (c.exchange s i server .udp) d, [c.exchange s i server .udp]⟩

lemma attempted_attempt (c : Call) (s : Surroundings) (i : Nat) (server : Endpoint) :
    Attempted c s i server (c.attempt s i server) := by
  cases hudp : c.useUdp with
  | false =>
    simp only [attempt, hudp, Bool.false_eq_true, if_false]
    exact .direct hudp
  | true =>
    cases hsend : send s i (c.exchange s i server .udp) with
    | error udpError =>
      cases htcp : c.config.tcp with
      | false =>
        simp only [attempt, hudp, hsend, htcp, if_true, Bool.false_eq_true, if_false]
        exact .failed hudp htcp hsend
      | true =>
        simp only [attempt, hudp, hsend, htcp, if_true]
        exact .retried hudp htcp hsend
    | ok d =>
      cases hcut : (c.config.tcp && Message.isTruncated d.octets) with
      | false =>
        simp only [attempt, hudp, hsend, hcut, if_true, Bool.false_eq_true, if_false]
        exact .answered hudp hsend hcut
      | true =>
        simp only [attempt, hudp, hsend, hcut, if_true]
        obtain ⟨htcp, hcut⟩ := Bool.and_eq_true_iff.mp hcut
        exact .truncated hudp htcp hsend hcut

/-! ### Exchanges -/

/-- An attempt is made by UDP, by UDP and then by TCP, or by TCP. -/
lemma exchanges_attempt (c : Call) (s : Surroundings) (i : Nat) (server : Endpoint) :
    (c.useUdp = true ∧ (c.attempt s i server).exchanges = [c.exchange s i server .udp])
      ∨ (c.useUdp = true ∧ c.config.tcp = true ∧ (c.attempt s i server).exchanges
        = [c.exchange s i server .udp, c.exchange s i server .tcp])
      ∨ (c.useUdp = false ∧ (c.attempt s i server).exchanges = [c.exchange s i server .tcp]) := by
  have hattempt := attempted_attempt c s i server
  generalize c.attempt s i server = run at hattempt
  cases hattempt with
  | direct hudp => exact Or.inr (Or.inr ⟨hudp, rfl⟩)
  | retried hudp htcp => exact Or.inr (Or.inl ⟨hudp, htcp, rfl⟩)
  | failed hudp => exact Or.inl ⟨hudp, rfl⟩
  | truncated hudp htcp => exact Or.inr (Or.inl ⟨hudp, htcp, rfl⟩)
  | answered hudp => exact Or.inl ⟨hudp, rfl⟩

lemma exchanges_overTcp : (c.overTcp s i server).exchanges = [c.exchange s i server .tcp] := rfl

/-- An attempt makes only the exchanges of the call with its server. -/
lemma exists_protocol_of_attempt (h : e ∈ (c.attempt s i server).exchanges) :
    ∃ protocol, e = c.exchange s i server protocol := by
  have hattempt := attempted_attempt c s i server
  generalize c.attempt s i server = run at h hattempt
  cases hattempt <;>
    simp only [exchanges_overTcp, List.mem_cons, List.not_mem_nil, or_false] at h
  case direct => exact ⟨_, h⟩
  case retried =>
    rcases h with h | h
    · exact ⟨_, h⟩
    · exact ⟨_, h⟩
  case failed => exact ⟨_, h⟩
  case truncated =>
    rcases h with h | h
    · exact ⟨_, h⟩
    · exact ⟨_, h⟩
  case answered => exact ⟨_, h⟩

/-- What the attempt with the server with a number exchanges, if there is such a server. -/
def exchangesAt (c : Call) (s : Surroundings) (i : Nat) : List Exchange :=
  (c.config.endpoints[i]?).elim [] fun server => (c.attempt s i server).exchanges

lemma exchangesAt_of_some (h : c.config.endpoints[i]? = some server) :
    c.exchangesAt s i = (c.attempt s i server).exchanges := by
  rw [exchangesAt, h, Option.elim_some]

lemma mem_exchangesAt : e ∈ c.exchangesAt s i ↔
    ∃ server, c.config.endpoints[i]? = some server ∧ e ∈ (c.attempt s i server).exchanges := by
  rw [exchangesAt]
  cases c.config.endpoints[i]? <;> simp

/-! ### Responses -/

/-- A response that came back in an exchange with a server and was accepted. -/
def Accepts (c : Call) (s : Surroundings) (i : Nat) (e : Exchange) (m : Message) : Prop :=
  ∃ d, s.reply i e = .ok d ∧ c.accept s e d = .ok m

lemma accepts_of_overTcp (h : (c.overTcp s i server).result = .ok m) :
    c.Accepts s i (c.exchange s i server .tcp) m := by
  obtain ⟨d, hd, haccept⟩ := except_bind_eq_ok_iff.mp h
  exact ⟨d, mapError_eq_ok_iff.mp hd, haccept⟩

/-- The response of an attempt came back in one of its exchanges. -/
lemma accepts_of_attempt (h : (c.attempt s i server).result = .ok m) :
    ∃ e ∈ (c.attempt s i server).exchanges, e.server = server ∧ c.Accepts s i e m := by
  have hattempt := attempted_attempt c s i server
  generalize c.attempt s i server = run at h hattempt ⊢
  cases hattempt with
  | direct => exact ⟨_, by simp [exchanges_overTcp], rfl, accepts_of_overTcp h⟩
  | retried =>
    have hok := accepts_of_overTcp (mapError_eq_ok_iff.mp h)
    exact ⟨_, by simp [exchanges_overTcp], rfl, hok⟩
  | failed => cases h
  | truncated => exact ⟨_, by simp [exchanges_overTcp], rfl, accepts_of_overTcp h⟩
  | answered _ hsend =>
    exact ⟨_, List.mem_singleton_self _, rfl, _, mapError_eq_ok_iff.mp hsend, h⟩

/-! ### Attempts beside others -/

/-- An attempt beside others cannot be started, or does what it does alone. -/
lemma launch_cases (c : Call) (s : Surroundings) (i : Nat) (server : Endpoint) :
    (∃ reason, s.unstarted i = some reason ∧
        c.launch s i server = .ofResult (.error (.transport server c.firstProtocol reason)))
      ∨ s.unstarted i = none ∧ c.launch s i server = c.attempt s i server := by
  unfold launch
  cases s.unstarted i with
  | some reason => exact Or.inl ⟨reason, rfl, rfl⟩
  | none => exact Or.inr ⟨rfl, rfl⟩

lemma launch_of_ok (h : (c.launch s i server).result = .ok m) :
    c.launch s i server = c.attempt s i server := by
  rcases launch_cases c s i server with ⟨reason, -, hlaunch⟩ | ⟨-, hlaunch⟩
  · rw [hlaunch] at h
    cases h
  · exact hlaunch

lemma mem_exchanges_attempt (h : e ∈ (c.launch s i server).exchanges) :
    e ∈ (c.attempt s i server).exchanges := by
  rcases launch_cases c s i server with ⟨reason, -, hlaunch⟩ | ⟨-, hlaunch⟩
  · rw [hlaunch] at h
    cases h
  · exact hlaunch ▸ h

lemma mem_attempts {run : Run Message} : run ∈ c.attempts s ↔
    ∃ i ∈ s.order, ∃ server, c.config.endpoints[i]? = some server
      ∧ c.launch s i server = run := by
  simp [attempts]

/-- Beside each other, those attempts make their exchanges that can be started. -/
lemma flatMap_exchanges_attempts (c : Call) (s : Surroundings) :
    (c.attempts s).flatMap (·.exchanges)
      = (s.order.filter fun i => (s.unstarted i).isNone).flatMap (c.exchangesAt s) := by
  have hone (i : Nat) : (c.config.endpoints[i]?.map (c.launch s i)).toList.flatMap (·.exchanges)
      = if (s.unstarted i).isNone then c.exchangesAt s i else [] := by
    rw [exchangesAt]
    cases c.config.endpoints[i]? with
    | none => simp
    | some server =>
      rcases launch_cases c s i server with ⟨reason, hstart, hlaunch⟩ | ⟨hstart, hlaunch⟩ <;>
        simp [hstart, hlaunch, Run.ofResult]
  rw [attempts, List.filterMap_eq_flatMap_toList, List.flatMap_assoc]
  induction s.order with
  | nil => rfl
  | cons i order ih =>
    rw [List.flatMap_cons, ih, hone, List.filter_cons]
    split_ifs
    · rw [List.flatMap_cons]
    · rw [List.nil_append]

end Call

end StubResolver
