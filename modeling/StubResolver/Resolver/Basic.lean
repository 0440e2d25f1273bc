import StubResolver.Name.Parse
import StubResolver.Resolver.Attempt
import StubResolver.Resolver.Selection
import StubResolver.Text.Words

/-!
# The resolver

A resolver sends a query to its servers, at once or one after the other, and picks the answer. A
name of one label is tried with each search suffix. The addresses of a host are looked up in both
versions.
-/

namespace StubResolver

namespace Resolver

/-! ### Servers -/

/-- Asks all servers at once, and takes the first response without an error, else the best one. -/
def resolve (config : Config) (s : Surroundings) (query : Query) : Run Message :=
  match Call.prepare config query with
  | .error e => .ofResult (.error e)
  | .ok call => .combine Selection.race (call.attempts s)

/-- Asks all servers at once, and takes all responses in the order in which they arrive. -/
def resolveAll (config : Config) (s : Surroundings) (query : Query) : Run (List Message) :=
  match Call.prepare config query with
  | .error e => .ofResult (.error e)
  | .ok call => .combine Selection.collect (call.attempts s)

/-- Asks servers one after the other, from a number on, until a response is accepted. -/
def tryFrom (call : Call) (s : Surroundings) (accept : Message → Bool) (failed : List Error) :
    Nat → List Endpoint → Run Message
  | _, [] => .ofResult (.error (.aggregate failed))
  | i, server :: servers =>
    let attempt := call.attempt s i server
    let next (causes : List Error) :=
      let run := tryFrom call s accept (failed ++ causes) (i + 1) servers
      { run with exchanges := attempt.exchanges ++ run.exchanges }
    match attempt.result with
    | .ok m => if accept m then attempt else next [.status m.header.rcode]
    | .error e => next e.causes

/-- Asks servers one after the other until a response is accepted. -/
def resolveSequentialWith (config : Config) (s : Surroundings) (query : Query)
    (accept : Message → Bool) : Run Message :=
  match Call.prepare config query with
  | .error e => .ofResult (.error e)
  | .ok call => tryFrom call s accept [] 0 call.config.endpoints

/-- Asks servers one after the other until one reports no error. -/
def resolveSequential (config : Config) (s : Surroundings) (query : Query) : Run Message :=
  resolveSequentialWith config s query Message.isNoError

/-! ### Names -/

/-- Whether the search suffixes are tried for a query. -/
def searches (config : Config) (query : Query) : Bool :=
  query.name.isSingleLabel && !config.search.isEmpty

/-- Resolves a name of one label with each search suffix at once, and any other name as it is. The
results are awaited in the order of the suffixes, of which earlier ones are better, so that it does
not matter which is there first. The surroundings of each suffix are given. -/
def resolveSearch (config : Config) (s : Nat → Surroundings) (query : Query) : Run Message :=
  if searches config query then
    .combine Selection.pick
      (config.search.mapIdx fun i suffix =>
        resolve config (s i) (query.withName (query.name.join suffix)))
  else resolve config (s 0) query

/-- Resolves a name that is given as text. -/
def query (config : Config) (s : Nat → Surroundings) (text : String) (type : RecordType) :
    Run Message :=
  let name := Text.trim text.toList
  if name.isEmpty then .ofResult (.error (.invalidArgument .noName))
  else match Name.parse (String.ofList name) with
    | .error e => .ofResult (.error e)
    | .ok name => resolveSearch config s { name, type }

/-! ### Addresses -/

/-- The address in a record, if it holds one. -/
def address? (r : Record) : Option IpAddress :=
  match r.resource with
  | .a ip => some (.v4 ip)
  | .aaaa ip => some (.v6 ip)
  | _ => none

/-- Appends the addresses that are not there yet. -/
def addNew (ips new : List IpAddress) : List IpAddress :=
  new.foldl (fun ips ip => if ip ∈ ips then ips else ips ++ [ip]) ips

/-- The addresses in the responses without an error, each once, or else what went wrong. -/
def addresses (results : List (Except Error Message)) : Except Error (List IpAddress) :=
  let ips := results.foldl (fun ips result => addNew ips (found result)) []
  let failed := results.filterMap failure?
  if ips.isEmpty && !failed.isEmpty then .error (.aggregate failed) else .ok ips
where
  /-- The addresses in a response without an error. -/
  found : Except Error Message → List IpAddress
    | .ok m => if m.isNoError then m.answers.filterMap address? else []
    | .error _ => []
  /-- What went wrong with a result. -/
  failure? : Except Error Message → Option Error
    | .ok m => if m.isNoError then none else some (.status m.header.rcode)
    | .error e => some e

/-- Looks up the addresses of a host in both versions at once. The results are awaited in this
order. The surroundings of each query are given. -/
def lookup (config : Config) (s : RecordType → Nat → Surroundings) (text : String) :
    Run (List IpAddress) :=
  .combine addresses [query config (s .a) text .a, query config (s .aaaa) text .aaaa]

end Resolver

end StubResolver
