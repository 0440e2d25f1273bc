import StubResolver.Proofs.Resolver.Attempt
import StubResolver.Resolver.Selection

/-!
# What a failed attempt reports

An exchange fails with a single error. An attempt fails with the error of its last exchange, unless
UDP failed and TCP failed in its place: then it reports the errors of both. An attempt that cannot
be started beside others reports one error of the protocol that it would have begun with.
-/

namespace StubResolver

lemma Error.causes_of_not_isAggregate {e : Error} (h : e.isAggregate = false) : e.causes = [e] := by
  cases e <;> first | rfl | cases h

/-- An error that comes of an exchange: the server cannot be reached, or it sends no message or one
that does not answer the query. -/
def Error.IsOfExchange : Error → Prop
  | .transport .. => True
  | .validation .. => True
  | e => e.IsUnreadable

lemma Error.IsUnreadable.isOfExchange {e : Error} (h : e.IsUnreadable) : e.IsOfExchange := by
  cases e <;> first | exact h | trivial

lemma Error.IsOfExchange.isAggregate_eq {e : Error} (h : e.IsOfExchange) :
    e.isAggregate = false := by
  cases e <;> first | rfl | exact h.elim

namespace Call

variable {c : Call} {s : Surroundings} {i : Nat} {server : Endpoint} {e : Error}

/-! ### One exchange -/

/-- What comes of an exchange with the server with a number. -/
def answer (c : Call) (s : Surroundings) (i : Nat) (exchange : Exchange) : Except Error Message :=
  send s i exchange >>= c.accept s exchange

lemma send_eq_error_iff {exchange : Exchange} :
    send s i exchange = .error e ↔ ∃ reason, s.reply i exchange = .error reason
      ∧ e = .transport exchange.server exchange.protocol reason := by
  simp only [send, mapError_eq_error_iff, eq_comm (a := e)]

lemma send_eq_ok_iff {exchange : Exchange} {d : Delivery} :
    send s i exchange = .ok d ↔ s.reply i exchange = .ok d := mapError_eq_ok_iff

lemma isOfExchange_of_accept {exchange : Exchange} {d : Delivery}
    (h : c.accept s exchange d = .error e) : e.IsOfExchange := by
  rcases except_bind_eq_error_iff.mp h with hdecode | ⟨m, -, h⟩
  · exact (Message.isUnreadable_of_decode hdecode).isOfExchange
  rcases except_bind_eq_error_iff.mp h with hcheck | ⟨-, -, h⟩
  · obtain ⟨mismatch, -, rfl⟩ := mapError_eq_error_iff.mp hcheck
    trivial
  · cases h

lemma isOfExchange_of_answer {exchange : Exchange} (h : c.answer s i exchange = .error e) :
    e.IsOfExchange := by
  rcases except_bind_eq_error_iff.mp h with hsend | ⟨d, -, haccept⟩
  · obtain ⟨reason, -, rfl⟩ := send_eq_error_iff.mp hsend
    trivial
  · exact isOfExchange_of_accept haccept

/-! ### One attempt -/

/-- UDP fails where the attempt begins with it, and TCP is tried in its place. -/
def FallsBack (c : Call) (s : Surroundings) (i : Nat) (server : Endpoint) (udpError : Error) :
    Prop :=
  c.useUdp = true ∧ c.config.tcp = true ∧ send s i (c.exchange s i server .udp) = .error udpError

/-- An attempt ends as its last exchange does, but keeps the error of UDP where TCP failed in its
place. -/
lemma result_attempt (c : Call) (s : Surroundings) (i : Nat) (server : Endpoint) :
    (∃ udpError, c.FallsBack s i server udpError
        ∧ (c.attempt s i server).result
          = (c.answer s i (c.exchange s i server .tcp)).mapError
            fun tcpError => .aggregate [udpError, tcpError])
      ∨ (∀ udpError, ¬ c.FallsBack s i server udpError)
        ∧ ∃ exchange, (c.attempt s i server).exchanges.getLast? = some exchange
          ∧ (c.attempt s i server).result = c.answer s i exchange := by
  have hattempt := attempted_attempt c s i server
  generalize c.attempt s i server = run at hattempt ⊢
  cases hattempt with
  | direct hudp => exact Or.inr ⟨by simp [FallsBack, hudp], _, rfl, rfl⟩
  | retried hudp htcp hsend => exact Or.inl ⟨_, ⟨hudp, htcp, hsend⟩, rfl⟩
  | failed hudp htcp hsend =>
    refine Or.inr ⟨by simp [FallsBack, htcp], c.exchange s i server .udp, rfl, ?_⟩
    rw [answer, hsend, error_bind]
  | truncated hudp htcp hsend => exact Or.inr ⟨by simp [FallsBack, hsend], _, rfl, rfl⟩
  | answered hudp hsend =>
    refine Or.inr ⟨by simp [FallsBack, hsend], c.exchange s i server .udp, rfl, ?_⟩
    rw [answer, hsend, ok_bind]

/-- An attempt fails with both errors if UDP failed and TCP failed in its place, and with the error
of its last exchange otherwise. -/
lemma attempt_eq_error_iff :
    (c.attempt s i server).result = .error e ↔
      (∃ udpError tcpError, c.FallsBack s i server udpError
          ∧ c.answer s i (c.exchange s i server .tcp) = .error tcpError
          ∧ e = .aggregate [udpError, tcpError])
        ∨ (∀ udpError, ¬ c.FallsBack s i server udpError)
          ∧ ∃ exchange, (c.attempt s i server).exchanges.getLast? = some exchange
            ∧ c.answer s i exchange = .error e := by
  rcases result_attempt c s i server with
    ⟨udpError, hback, hresult⟩ | ⟨hback, exchange, hlast, hresult⟩
  · rw [hresult, mapError_eq_error_iff]
    constructor
    · rintro ⟨tcpError, htcp, rfl⟩
      exact Or.inl ⟨udpError, tcpError, hback, htcp, rfl⟩
    · rintro (⟨udpError', tcpError, hback', htcp, rfl⟩ | ⟨hnot, -⟩)
      · have hsame : udpError = udpError' := Except.error.inj (hback.2.2.symm.trans hback'.2.2)
        exact ⟨tcpError, htcp, by rw [hsame]⟩
      · exact (hnot udpError hback).elim
  · rw [hresult]
    constructor
    · intro h
      exact Or.inr ⟨hback, exchange, hlast, h⟩
    · rintro (⟨udpError, tcpError, hback', -⟩ | ⟨-, exchange', hlast', h⟩)
      · exact (hback udpError hback').elim
      · obtain rfl : exchange = exchange' := Option.some.inj (hlast.symm.trans hlast')
        exact h

/-- What a failed attempt is blamed on: UDP and then TCP, if UDP failed and TCP failed in its
place, and a single error otherwise. -/
inductive Blamed (c : Call) (s : Surroundings) (i : Nat) (server : Endpoint) :
    List Error → Prop where
  | both {udpError tcpError : Error} (hback : c.FallsBack s i server udpError)
      (htcp : c.answer s i (c.exchange s i server .tcp) = .error tcpError) :
      Blamed c s i server [udpError, tcpError]
  | one {e : Error} (hback : ∀ udpError, ¬ c.FallsBack s i server udpError)
      (hresult : (c.attempt s i server).result = .error e) (hone : e.isAggregate = false) :
      Blamed c s i server [e]

lemma blamed_of_attempt (h : (c.attempt s i server).result = .error e) :
    Blamed c s i server e.causes := by
  rcases attempt_eq_error_iff.mp h with
    ⟨udpError, tcpError, hback, htcp, rfl⟩ | ⟨hback, exchange, -, hanswer⟩
  · exact .both hback htcp
  · have hone := (isOfExchange_of_answer hanswer).isAggregate_eq
    rw [Error.causes_of_not_isAggregate hone]
    exact .one hback h hone

/-- An attempt is blamed on at least one error, and only on errors of its exchanges. -/
lemma Blamed.isOfExchange {own : List Error} (h : Blamed c s i server own) :
    own ≠ [] ∧ ∀ e ∈ own, e.IsOfExchange := by
  cases h with
  | both hback htcp =>
    obtain ⟨reason, -, rfl⟩ := send_eq_error_iff.mp hback.2.2
    simpa [Error.IsOfExchange] using isOfExchange_of_answer htcp
  | one hback hresult hone =>
    rcases attempt_eq_error_iff.mp hresult with ⟨_, _, -, -, rfl⟩ | ⟨-, exchange, -, hanswer⟩
    · cases hone
    · simpa using isOfExchange_of_answer hanswer

/-! ### Attempts beside others -/

/-- What an attempt beside others is blamed on: that it could not be started, or what it failed
with. -/
inductive Lost (c : Call) (s : Surroundings) (i : Nat) (server : Endpoint) : List Error → Prop where
  | unstarted {reason : String} (h : s.unstarted i = some reason) :
      Lost c s i server [.transport server c.firstProtocol reason]
  | failed {own : List Error} (h : s.unstarted i = none) (hblamed : c.Blamed s i server own) :
      Lost c s i server own

lemma lost_of_launch (h : (c.launch s i server).result = .error e) :
    Lost c s i server e.causes := by
  rcases launch_cases c s i server with ⟨reason, hstart, hlaunch⟩ | ⟨hstart, hlaunch⟩
  · rw [hlaunch] at h
    cases h
    exact .unstarted hstart
  · rw [hlaunch] at h
    exact .failed hstart (blamed_of_attempt h)

lemma Lost.isOfExchange {own : List Error} (h : Lost c s i server own) :
    own ≠ [] ∧ ∀ e ∈ own, e.IsOfExchange := by
  cases h with
  | unstarted => simp [Error.IsOfExchange]
  | failed _ hblamed => exact hblamed.isOfExchange

end Call

end StubResolver
