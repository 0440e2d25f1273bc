import StubResolver.Message.Basic

/-!
# Selection among responses

Of several responses, the first without an error is the best, then the first with answers, then
the first. Where servers are asked at once, a response without an error ends the race.
-/

namespace StubResolver

/-- Whether a response reports no error. -/
def Message.isNoError (m : Message) : Bool := m.header.rcode == .noError

/-- Whether a response has answers. -/
def Message.hasAnswers (m : Message) : Bool := !m.answers.isEmpty

/-- The errors that an error stands for: those that it collects, or itself. -/
def Error.causes : Error → List Error
  | .aggregate causes => causes
  | e => [e]

namespace Selection

/-- The best of several responses, if there are any. -/
def best? (responses : List Message) : Option Message :=
  (responses.find? Message.isNoError).or
    ((responses.find? Message.hasAnswers).or responses.head?)

/-- The best of several responses, or else all errors. -/
def select (responses : List Message) (errors : List Error) : Except Error Message :=
  match best? responses with
  | some m => .ok m
  | none => .error (.aggregate errors)

/-- The responses among results. -/
def responses {α : Type} (results : List (Except Error α)) : List α :=
  results.filterMap Except.toOption

/-- The errors of a result. -/
def errorOf? {α : Type} : Except Error α → Option Error
  | .ok _ => none
  | .error e => some e

/-- The errors among results. -/
def errors {α : Type} (results : List (Except Error α)) : List Error :=
  results.filterMap errorOf?

/-- The outcome of a race, from results in the order in which they arrive. The first response
without an error ends it. Behind those results that were seen before, the responses reversed. -/
def raceOnto (seen : List Message) (failed : List Error) :
    List (Except Error Message) → Except Error Message
  | [] => select seen.reverse failed
  | .ok m :: rest => if m.isNoError then .ok m else raceOnto (m :: seen) failed rest
  | .error e :: rest => raceOnto seen (failed ++ e.causes) rest

/-- The outcome of a race. -/
def race (results : List (Except Error Message)) : Except Error Message := raceOnto [] [] results

/-- All responses, in the order in which they arrive, or else all errors. -/
def collect (results : List (Except Error Message)) : Except Error (List Message) :=
  match responses results with
  | [] => .error (.aggregate ((errors results).flatMap Error.causes))
  | responses => .ok responses

/-- The best response among results that count as one attempt each, or else their errors. -/
def pick (results : List (Except Error Message)) : Except Error Message :=
  select (responses results) (errors results)

end Selection

end StubResolver
