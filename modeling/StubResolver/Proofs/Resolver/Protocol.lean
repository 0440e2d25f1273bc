import Mathlib.Data.List.Perm.Subperm
import StubResolver.Proofs.Resolver.Failure
import StubResolver.Proofs.Resolver.Operation

/-!
# The order of the protocols

An attempt asks its server by UDP, by UDP and then by TCP, or by TCP alone, and the configuration,
the size of the query and what came back by UDP decide which. No operation of a resolver uses a
protocol that is not allowed, asks an entry of the list of servers twice by one protocol in one
call, or returns what UDP cut off while TCP is allowed.
-/

namespace StubResolver

/-- Octets have a header that says they were cut off. -/
def IsCutOff (octets : Octets) : Prop :=
  12 ≤ octets.length ∧ ∃ flags, octets[2]? = some flags ∧ flags.toNat.testBit 1 = true

lemma isTruncated_iff {octets : Octets} : Message.isTruncated octets = true ↔ IsCutOff octets := by
  rw [Message.isTruncated, Bool.and_eq_true, decide_eq_true_iff, Option.any_eq_true]
  rfl

namespace Call

variable {c : Call} {s : Surroundings} {i : Nat} {server : Endpoint} {m : Message}

/-! ### One attempt -/

/-- UDP does not give what the attempt needs: it fails, or its response is cut off. -/
def UdpFallsShort (c : Call) (s : Surroundings) (i : Nat) (server : Endpoint) : Prop :=
  (∃ reason, s.reply i (c.exchange s i server .udp) = .error reason)
    ∨ ∃ d, s.reply i (c.exchange s i server .udp) = .ok d ∧ IsCutOff d.octets

/-- What the attempt with a server does. -/
structure FollowsProtocol (c : Call) (s : Surroundings) (i : Nat) (server : Endpoint) : Prop where
  exchanges_eq :
    (c.attempt s i server).exchanges = [c.exchange s i server .udp]
      ∨ (c.attempt s i server).exchanges = [c.exchange s i server .udp, c.exchange s i server .tcp]
      ∨ (c.attempt s i server).exchanges = [c.exchange s i server .tcp]
  udp_first_iff :
    (c.attempt s i server).exchanges.head? = some (c.exchange s i server .udp)
      ↔ c.config.udp = true ∧ c.query.wireLength ≤ 512
  tcp_second_iff :
    (c.attempt s i server).exchanges = [c.exchange s i server .udp, c.exchange s i server .tcp]
      ↔ (c.config.udp = true ∧ c.query.wireLength ≤ 512) ∧ c.config.tcp = true
        ∧ c.UdpFallsShort s i server
  refused_is_final : ∀ d e,
    (c.attempt s i server).exchanges.head? = some (c.exchange s i server .udp) →
    s.reply i (c.exchange s i server .udp) = .ok d → c.config.tcp = false ∨ ¬ IsCutOff d.octets →
    c.accept s (c.exchange s i server .udp) d = .error e →
    c.attempt s i server = ⟨.error e, [c.exchange s i server .udp]⟩
  error_iff : ∀ e, (c.attempt s i server).result = .error e ↔
    (∃ udpError tcpError, c.FallsBack s i server udpError
        ∧ c.answer s i (c.exchange s i server .tcp) = .error tcpError
        ∧ e = .aggregate [udpError, tcpError])
      ∨ (∀ udpError, ¬ c.FallsBack s i server udpError) ∧ e.isAggregate = false
        ∧ ∃ exchange, (c.attempt s i server).exchanges.getLast? = some exchange
          ∧ c.answer s i exchange = .error e

lemma tcp_second_iff :
    (c.attempt s i server).exchanges = [c.exchange s i server .udp, c.exchange s i server .tcp]
      ↔ c.useUdp = true ∧ c.config.tcp = true ∧ c.UdpFallsShort s i server := by
  have hattempt := attempted_attempt c s i server
  generalize c.attempt s i server = run at hattempt ⊢
  cases hattempt with
  | direct hudp => simp [exchanges_overTcp, hudp]
  | @retried e hudp htcp hsend =>
    obtain ⟨reason, hreply, -⟩ := send_eq_error_iff.mp hsend
    simp [exchanges_overTcp, hudp, htcp, UdpFallsShort, hreply]
  | failed hudp htcp => simp [htcp]
  | truncated hudp htcp hsend hcut =>
    have hreply := send_eq_ok_iff.mp hsend
    simp [exchanges_overTcp, hudp, htcp, UdpFallsShort, hreply, isTruncated_iff.mp hcut]
  | @answered d hudp hsend hcut =>
    have hreply := send_eq_ok_iff.mp hsend
    have hwhole (htcp : c.config.tcp = true) : ¬ IsCutOff d.octets := by
      rw [← isTruncated_iff]
      simpa [htcp] using hcut
    simpa [hudp, UdpFallsShort, hreply] using hwhole

lemma attempt_of_refused {d : Delivery} {e : Error} (hudp : c.useUdp = true)
    (hreply : s.reply i (c.exchange s i server .udp) = .ok d)
    (hwhole : c.config.tcp = false ∨ ¬ IsCutOff d.octets)
    (haccept : c.accept s (c.exchange s i server .udp) d = .error e) :
    c.attempt s i server = ⟨.error e, [c.exchange s i server .udp]⟩ := by
  have hcut : (c.config.tcp && Message.isTruncated d.octets) = false := by
    rw [← isTruncated_iff, Bool.not_eq_true] at hwhole
    rcases hwhole with h | h <;> simp [h]
  simp only [attempt, hudp, send_eq_ok_iff.mpr hreply, hcut, haccept, if_true, Bool.false_eq_true,
    if_false]

lemma followsProtocol {config : Config} {query : Query} (h : prepare config query = .ok c)
    (s : Surroundings) (i : Nat) (server : Endpoint) : c.FollowsProtocol s i server := by
  obtain ⟨rfl, rfl⟩ := of_prepare h
  have hudp := (useUdp_of_prepare h).1
  have hexchanges := exchanges_attempt c s i server
  have hne : c.exchange s i server .tcp ≠ c.exchange s i server .udp :=
    fun heq => Protocol.noConfusion (congrArg Exchange.protocol heq)
  have hfirst : (c.attempt s i server).exchanges.head? = some (c.exchange s i server .udp)
      ↔ c.useUdp = true := by
    rcases hexchanges with ⟨huse, heq⟩ | ⟨huse, -, heq⟩ | ⟨huse, heq⟩
    · simp [huse, heq]
    · simp [huse, heq]
    · simp [huse, heq, hne]
  refine ⟨?_, hfirst.trans hudp, ?_, ?_, ?_⟩
  · rcases hexchanges with ⟨-, heq⟩ | ⟨-, -, heq⟩ | ⟨-, heq⟩
    · exact Or.inl heq
    · exact Or.inr (Or.inl heq)
    · exact Or.inr (Or.inr heq)
  · rw [tcp_second_iff, hudp]
    rfl
  · intro d e hhead hreply hwhole haccept
    exact attempt_of_refused (hfirst.mp hhead) hreply hwhole haccept
  · intro e
    rw [attempt_eq_error_iff]
    refine or_congr_right (and_congr_right fun _ => ?_)
    constructor
    · rintro ⟨exchange, hlast, hanswer⟩
      exact ⟨(isOfExchange_of_answer hanswer).isAggregate_eq, exchange, hlast, hanswer⟩
    · rintro ⟨-, hanswer⟩
      exact hanswer

/-- A response that was taken from UDP while TCP is allowed was not cut off. -/
lemma truncated_of_attempt (h : (c.attempt s i server).result = .ok m)
    (htcp : c.config.tcp = true) {p : Provenance} (hp : m.provenance = some p)
    (hudp : p.protocol = .udp) : m.header.truncated = false := by
  have hover (h : (c.overTcp s i server).result = .ok m) : False := by
    obtain ⟨d, -, haccept⟩ := except_bind_eq_ok_iff.mp h
    rw [(of_accept haccept).2.1] at hp
    cases hp
    cases hudp
  have hattempt := attempted_attempt c s i server
  generalize c.attempt s i server = run at h hattempt
  cases hattempt with
  | direct => exact (hover h).elim
  | retried => exact (hover (mapError_eq_ok_iff.mp h)).elim
  | failed => cases h
  | truncated => exact (hover h).elim
  | answered _ _ hcut =>
    have hdecode := Message.isTruncated_of_decode (of_accept h).1
    rw [htcp, Bool.true_and, hdecode] at hcut
    exact hcut

/-! ### One call -/

lemma countP_exchanges_attempt_le (c : Call) (s : Surroundings) (i : Nat) (server x : Endpoint)
    (protocol : Protocol) :
    (c.attempt s i server).exchanges.countP (fun e => e.protocol = protocol ∧ e.server = x)
      ≤ if server = x then 1 else 0 := by
  rcases exchanges_attempt c s i server with ⟨-, heq⟩ | ⟨-, -, heq⟩ | ⟨-, heq⟩ <;>
    rw [heq] <;> cases protocol <;> by_cases hserver : server = x <;>
    simp [exchange, hserver]

/-- In attempts with some entries of the list of servers, a server is asked by each protocol at
most as often as it is among these entries. -/
lemma countP_exchangesAt_le (c : Call) (s : Surroundings) (order : List Nat) (x : Endpoint)
    (protocol : Protocol) :
    (order.flatMap (c.exchangesAt s)).countP (fun e => e.protocol = protocol ∧ e.server = x)
      ≤ order.countP (fun i => c.config.endpoints[i]? = some x) := by
  induction order with
  | nil => exact Nat.le_refl 0
  | cons i order ih =>
    rw [List.flatMap_cons, List.countP_append, List.countP_cons, Nat.add_comm]
    refine Nat.add_le_add ih ?_
    cases hserver : c.config.endpoints[i]? with
    | none => simp [exchangesAt, hserver]
    | some server =>
      rw [exchangesAt_of_some hserver]
      simpa using countP_exchanges_attempt_le c s i server x protocol

lemma allowed_of_attempt {config : Config} {query : Query} (h : prepare config query = .ok c)
    {e : Exchange} (he : e ∈ (c.attempt s i server).exchanges) :
    (e.protocol = .udp → config.udp = true) ∧ (e.protocol = .tcp → config.tcp = true) := by
  obtain ⟨hudp, htcp⟩ := useUdp_of_prepare h
  obtain ⟨hconfig, -⟩ := of_prepare h
  rcases exchanges_attempt c s i server with ⟨huse, heq⟩ | ⟨huse, hallowed, heq⟩ | ⟨huse, heq⟩
  · obtain rfl := List.mem_singleton.mp (heq ▸ he)
    exact ⟨fun _ => (hudp.mp huse).1, fun h => Protocol.noConfusion h⟩
  · rw [heq, List.mem_cons, List.mem_singleton] at he
    rcases he with rfl | rfl
    · exact ⟨fun _ => (hudp.mp huse).1, fun h => Protocol.noConfusion h⟩
    · exact ⟨fun h => Protocol.noConfusion h, fun _ => hconfig ▸ hallowed⟩
  · obtain rfl := List.mem_singleton.mp (heq ▸ he)
    exact ⟨fun h => Protocol.noConfusion h, fun _ => htcp huse⟩

end Call

/-! ### Entries of a list -/

lemma countP_range_getElem? {α : Type} [DecidableEq α] (l : List α) (a : α) :
    (List.range l.length).countP (fun i => l[i]? = some a) = l.count a := by
  induction l with
  | nil => rfl
  | cons b l ih =>
    rw [List.length_cons, List.range_succ_eq_map, List.countP_cons, List.countP_map,
      List.count_cons, ← ih]
    congr 1
    by_cases h : b = a <;> simp [h]

/-- A value is at most as often behind different numbers as it is in the list. -/
lemma countP_getElem?_le {α : Type} [DecidableEq α] {order : List Nat} (h : order.Nodup)
    (l : List α) (a : α) : order.countP (fun i => l[i]? = some a) ≤ l.count a := by
  have hsub : (order.filter (· < l.length)).Subperm (List.range l.length) := by
    refine List.subperm_of_subset (h.filter _) fun i hi => ?_
    simpa using (List.mem_filter.mp hi).2
  calc order.countP (fun i => l[i]? = some a)
      = (order.filter (· < l.length)).countP (fun i => l[i]? = some a) := by
        rw [List.countP_filter]
        refine List.countP_congr fun i _ => ?_
        simp only [decide_eq_true_eq, Bool.and_eq_true]
        constructor
        · intro hi
          exact ⟨hi, (List.getElem?_eq_some_iff.mp hi).1⟩
        · exact And.left
    _ ≤ (List.range l.length).countP (fun i => l[i]? = some a) := hsub.countP_le _
    _ = l.count a := countP_range_getElem? l a

namespace Resolver

/-- What the exchanges of one call keep to: only protocols that are allowed are used, and each
entry of the list of servers is asked at most once by each. -/
structure Orderly (config : Config) (exchanges : List Exchange) : Prop where
  allowed : ∀ e ∈ exchanges, (e.protocol = .udp → config.udp = true)
    ∧ (e.protocol = .tcp → config.tcp = true)
  once : ∀ protocol server,
    exchanges.countP (fun e => e.protocol = protocol ∧ e.server = server)
      ≤ config.endpoints.count server

lemma orderly_of_isCall {config : Config} {exchanges : List Exchange}
    (h : IsCall config exchanges) : Orderly config exchanges := by
  cases h with
  | rejected => exact ⟨by simp, by simp⟩
  | @asked query c s order hprepare hnodup =>
    obtain ⟨rfl, rfl⟩ := Call.of_prepare hprepare
    refine ⟨?_, ?_⟩
    · intro e he
      obtain ⟨i, -, he⟩ := List.mem_flatMap.mp he
      cases hserver : c.config.endpoints[i]? with
      | none => simp [Call.exchangesAt, hserver] at he
      | some server =>
        rw [Call.exchangesAt_of_some hserver] at he
        exact Call.allowed_of_attempt hprepare he
    · intro protocol server
      exact (Call.countP_exchangesAt_le c s order server protocol).trans
        (countP_getElem?_le hnodup _ _)

/-- Every attempt keeps to the order of the protocols, and so does every operation: each of its
calls uses only allowed protocols and asks each entry of the list of servers at most once by each,
and no message that it returns was cut off by UDP while TCP is allowed. -/
theorem followsProtocol_of_operation (config : Config) :
    (∀ query c, Call.prepare config query = .ok c → ∀ s i server, c.FollowsProtocol s i server)
      ∧ ∀ op : Operation, op.IsScheduled →
        op.exchanges config = (op.calls config).flatten
        ∧ (∀ exchanges ∈ op.calls config, Orderly config exchanges)
        ∧ (config.tcp = true → ∀ m ∈ op.messages config, ∀ p, m.provenance = some p →
          p.protocol = .udp → m.header.truncated = false) := by
  refine ⟨fun query c h s i server => Call.followsProtocol h s i server, ?_⟩
  intro op hop
  refine ⟨exchanges_eq_flatten config op, ?_, ?_⟩
  · intro exchanges hmem
    exact orderly_of_isCall (isCall_of_mem_calls hop hmem)
  · intro htcp m hm p hp hudp
    obtain ⟨query, c, s, i, server, hprepare, hresult⟩ := isResponse_of_mem_messages hm
    obtain ⟨rfl, -⟩ := Call.of_prepare hprepare
    exact Call.truncated_of_attempt hresult htcp hp hudp

/-- A query for the addresses of a name. -/
def small : Query := { name := ⟨[.text [0x61]]⟩ }

/-- The octets of the response to it. -/
def echoOctets : Octets := [0, 7, 0x80, 0, 0, 1, 0, 0, 0, 0, 0, 0, 1, 0x41, 0, 0, 1, 0, 1]

/-- One server, which answers in full by UDP. -/
def inFull : Surroundings := { cutOff with reply := fun _ _ => .ok { octets := echoOctets } }

/-- The response of this server, as it is returned. -/
def echoByUdp : Message :=
  { echo with
    provenance := some ⟨0, { seconds := 0 }, ⟨.v4 (.ofOctets 127 0 0 1), 53⟩, .udp, 19, 19⟩ }

lemma resolve_inFull : (resolve oneServer inFull small).result = .ok echoByUdp := by
  have hdecode : Message.decode echoOctets = .ok echo :=
    Message.decode_of_encode (m := echo) ⟨by decide, by decide⟩ rfl
  have hrace : (resolve oneServer inFull small).result
      = Selection.race [Message.decode echoOctets >>= fun m =>
        (Call.check small 7 m).mapError (.validation ⟨.v4 (.ofOctets 127 0 0 1), 53⟩) >>= fun _ =>
        .ok { m with
          provenance :=
            some ⟨0, { seconds := 0 }, ⟨.v4 (.ofOctets 127 0 0 1), 53⟩, .udp, 19, 19⟩ }] := rfl
  rw [hrace, hdecode]
  rfl

theorem followsProtocol_of_operation_inFull :
    (⟨oneServer, small, true⟩ : Call).FollowsProtocol inFull 0 ⟨.v4 (.ofOctets 127 0 0 1), 53⟩
      ∧ (∀ exchanges ∈ (Operation.resolve inFull small).calls oneServer,
        Orderly oneServer exchanges)
      ∧ echoByUdp ∈ (Operation.resolve inFull small).messages oneServer
      ∧ echoByUdp.header.truncated = false := by
  obtain ⟨hattempts, hoperations⟩ := followsProtocol_of_operation oneServer
  have hscheduled : (Operation.resolve inFull small).IsScheduled :=
    show [0].Nodup by decide
  obtain ⟨-, horderly, hwhole⟩ := hoperations _ hscheduled
  have hmem : echoByUdp ∈ (Operation.resolve inFull small).messages oneServer := by
    rw [Operation.messages, resolve_inFull]
    exact List.mem_singleton_self _
  exact ⟨hattempts small _ rfl _ _ _, horderly, hmem, hwhole rfl _ hmem _ rfl rfl⟩

end Resolver

end StubResolver
