import StubResolver.Proofs.Name.Reachable
import StubResolver.Proofs.Resolver.Report

/-!
# Requests

A name may be of any length, and nothing is cut off where a query is encoded. Requests still fit
the protocol that they are sent by, as the size of every query is found before it is sent, search
suffixes included, and neither the encoding nor letters in another case change it.
-/

namespace StubResolver

namespace Call

variable {c : Call} {config : Config} {query : Query} {s : Surroundings} {i : Nat}
  {server : Endpoint} {e : Exchange}

/-! ### Sizes -/

lemma useUdp_of_protocol (he : e ∈ (c.attempt s i server).exchanges) (hudp : e.protocol = .udp) :
    c.useUdp = true := by
  rcases exchanges_attempt c s i server with ⟨huse, -⟩ | ⟨huse, -⟩ | ⟨-, heq⟩
  · exact huse
  · exact huse
  · obtain rfl := List.mem_singleton.mp (heq ▸ he)
    cases hudp

lemma wireLength_le_of_prepare (h : prepare config query = .ok c) :
    query.wireLength ≤ maxTcpQuery := by
  have hsize := mt Query.isOversized_iff.mpr (exists_prepare_iff.mp ⟨c, h⟩).2
  refine Nat.le_trans (Nat.not_lt.mp hsize) ?_
  rw [Config.maxQuery]
  split_ifs <;> decide

/-! ### What is sent -/

/-- The exchange sends a query in a size that its protocol carries, and is given enough time. -/
structure Fits (query : Query) (e : Exchange) : Prop where
  length_eq : e.request.length = query.wireLength
  udp : e.protocol = .udp → e.request.length ≤ 512
  /-- The size is the number that two octets in front of the request hold. -/
  tcp : e.protocol = .tcp →
    e.request.length ≤ 65535 ∧ (UInt16.ofNat e.request.length).toNat = e.request.length
  le_timeout : .ofMilliseconds 100 ≤ e.timeout

lemma fits_of_attempt (hprepare : prepare config query = .ok c)
    (he : e ∈ (c.attempt s i server).exchanges) : Fits query e := by
  have hudp := useUdp_of_protocol he
  have hsize := wireLength_le_of_prepare hprepare
  have hsmall := (useUdp_of_prepare hprepare).1
  obtain ⟨rfl, rfl⟩ := of_prepare hprepare
  obtain ⟨protocol, rfl⟩ := exists_protocol_of_attempt he
  have hlength : (c.exchange s i server protocol).request.length = c.query.wireLength :=
    length_request c s i protocol
  refine ⟨hlength, ?_, ?_, Duration.le_max_right _ _⟩
  · intro hprotocol
    rw [hlength]
    exact (hsmall.mp (hudp hprotocol)).2
  · intro _
    rw [hlength]
    exact ⟨hsize, UInt16.toNat_ofNat_of_lt' (Nat.lt_succ_of_le hsize)⟩

end Call

namespace Resolver

variable {config : Config} {query : Query} {s : Surroundings} {e : Exchange}

lemma fits_of_resolve (he : e ∈ (resolve config s query).exchanges) : Call.Fits query e := by
  cases hprepare : Call.prepare config query with
  | error fault =>
    rw [resolve_of_refused hprepare] at he
    cases he
  | ok c =>
    simp only [resolve, hprepare, Run.combine] at he
    obtain ⟨run, hrun, he⟩ := List.mem_flatMap.mp he
    obtain ⟨i, -, server, -, rfl⟩ := Call.mem_attempts.mp hrun
    exact Call.fits_of_attempt hprepare (Call.mem_exchanges_attempt he)

lemma fits_of_resolveSequentialWith {accept : Message → Bool}
    (he : e ∈ (resolveSequentialWith config s query accept).exchanges) : Call.Fits query e := by
  cases hprepare : Call.prepare config query with
  | error fault =>
    rw [resolveSequentialWith_of_refused hprepare] at he
    cases he
  | ok c =>
    rw [resolveSequentialWith_of_prepare hprepare] at he
    obtain ⟨i, server, he⟩ := (inTurn_tryFrom c s accept).exists_attempt_of_mem he
    exact Call.fits_of_attempt hprepare he

/-! ### What each operation sends -/

lemma searchCalls_eq_map (config : Config) (s : Nat → Surroundings) (query : Query) :
    searchCalls config s query = (searchQueries config s query).map fun sent =>
      (resolve config sent.1 sent.2).exchanges := by
  unfold searchCalls searchQueries
  split_ifs
  · simp only [List.mapIdx_eq_zipIdx_map, List.map_map, Function.comp_def]
  · rfl

lemma textCalls_eq_map (config : Config) (s : Nat → Surroundings) (text : String)
    (type : RecordType) :
    textCalls config s text type = (textQueries config s text type).map fun sent =>
      (resolve config sent.1 sent.2).exchanges := by
  unfold textCalls textQueries
  split_ifs
  · rfl
  · cases hname : Name.parse (String.ofList (Text.trim text.toList)) with
    | error e => simp [textQuery?, hname, Except.toOption]
    | ok name => simpa [textQuery?, hname, Except.toOption] using searchCalls_eq_map config s _

/-- Exchanges stand beside the queries that they send, and each of them fits. -/
lemma forall₂_fits (queries : List (Surroundings × Query)) :
    List.Forall₂ (fun sent exchanges => ∀ e ∈ exchanges, Call.Fits sent.2 e) queries
      (queries.map fun sent => (resolve config sent.1 sent.2).exchanges) := by
  rw [List.forall₂_map_right_iff, List.forall₂_same]
  exact fun sent _ e he => fits_of_resolve he

/-- Every exchange of an operation sends one of the queries that come of it, and fits. -/
theorem fits_of_operation (config : Config) (op : Operation) :
    op.exchanges config = (op.calls config).flatten
      ∧ List.Forall₂ (fun sent exchanges => ∀ e ∈ exchanges, Call.Fits sent.2 e)
        (op.queries config) (op.calls config) := by
  refine ⟨exchanges_eq_flatten config op, ?_⟩
  cases op with
  | resolve s query => exact forall₂_fits [(s, query)]
  | resolveAll s query =>
    rw [Operation.calls, exchanges_resolveAll]
    exact forall₂_fits [(s, query)]
  | resolveSequential s query =>
    exact .cons (fun e he => fits_of_resolveSequentialWith he) .nil
  | resolveSequentialWith s query accept =>
    exact .cons (fun e he => fits_of_resolveSequentialWith he) .nil
  | resolveSearch s query =>
    rw [Operation.calls, searchCalls_eq_map]
    exact forall₂_fits _
  | query s text type =>
    rw [Operation.calls, textCalls_eq_map]
    exact forall₂_fits _
  | lookup s text =>
    rw [Operation.calls, textCalls_eq_map, textCalls_eq_map, ← List.map_append]
    exact forall₂_fits _

/-- One server, one search suffix, and letters whose case is drawn at random. -/
def recased : Config := { oneSuffix with randomCase := true }

/-- A search for a name of one label, in which every letter changes its case, and no server can be
reached. -/
def shouted : Operation :=
  .resolveSearch (fun _ => { unreachable [0] with bits := fun _ _ _ => true })
    { name := ⟨[.text [0x61]]⟩ }

/-- The name is sent with the suffix and in capital letters, by UDP and by TCP. -/
theorem fits_of_operation_recased :
    (shouted.exchanges recased).map (fun e => (e.protocol, e.timeout, e.request))
      = [(.udp, { seconds := 5 }, [0, 7, 1, 0, 0, 1, 0, 0, 0, 0, 0, 0, 1, 0x41, 3, 0x43, 0x4F, 0x4D,
          0, 0, 1, 0, 1]),
        (.tcp, { seconds := 5 }, [0, 7, 1, 0, 0, 1, 0, 0, 0, 0, 0, 0, 1, 0x41, 3, 0x43, 0x4F, 0x4D,
          0, 0, 1, 0, 1])]
      ∧ ∀ e ∈ shouted.exchanges recased,
        Call.Fits { name := ⟨[.text [0x61], .text [0x63, 0x6F, 0x6D]]⟩ } e := by
  have hqueries : (shouted.queries recased).map (·.2)
      = [{ name := ⟨[.text [0x61], .text [0x63, 0x6F, 0x6D]]⟩ }] := rfl
  obtain ⟨hflatten, hfits⟩ := fits_of_operation recased shouted
  refine ⟨by decide +kernel, ?_⟩
  intro e he
  rw [hflatten] at he
  obtain ⟨exchanges, hexchanges, he⟩ := List.mem_flatten.mp he
  obtain ⟨sent, hsent, hsentFits⟩ := exists_of_mem_right hfits hexchanges
  have hquery := List.mem_map_of_mem (f := (·.2)) hsent
  rw [hqueries] at hquery
  rw [← List.mem_singleton.mp hquery]
  exact hsentFits e he

end Resolver

end StubResolver
