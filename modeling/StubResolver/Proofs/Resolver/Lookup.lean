import StubResolver.Proofs.Name.Text
import StubResolver.Proofs.Resolver.Search

/-!
# Looking up addresses

A lookup asks for the addresses of both versions at once. It gives each address that was found in a
response without an error, where it was found first. What goes wrong with one query is told only if
neither found an address.
-/

namespace StubResolver

namespace Resolver

variable {config : Config} {s : RecordType → Nat → Surroundings} {text : String} {ip : IpAddress}
  {ips : List IpAddress} {result : Except Error Message} {results : List (Except Error Message)}

/-! ### Addresses, each once -/

/-- The addresses that are there stay, and behind them come those that are new. -/
lemma addNew_eq_append (ips new : List IpAddress) :
    addNew ips new = ips ++ (new.filter (· ∉ ips)).eraseDups := by
  induction new generalizing ips with
  | nil => simp [addNew]
  | cons ip new ih =>
    have hstep : addNew ips (ip :: new) = addNew (if ip ∈ ips then ips else ips ++ [ip]) new := rfl
    rw [hstep, ih]
    split_ifs with hip
    · simp [hip]
    · have hnew : new.filter (· ∉ ips ++ [ip]) = (new.filter (· ∉ ips)).filter (!· == ip) := by
        rw [List.filter_filter]
        refine List.filter_congr fun ip' _ => ?_
        rw [Bool.eq_iff_iff]
        simp [and_comm]
      rw [hnew, List.filter_cons_of_pos (by simpa using hip), List.eraseDups_cons,
        List.append_assoc, List.singleton_append]

lemma nodup_addNew (h : ips.Nodup) (new : List IpAddress) : (addNew ips new).Nodup := by
  induction new generalizing ips with
  | nil => exact h
  | cons ip new ih =>
    have hstep : (if ip ∈ ips then ips else ips ++ [ip]).Nodup := by
      split_ifs with hip
      · exact h
      · refine List.nodup_append.mpr ⟨h, by simp, ?_⟩
        rintro ip' hip' _ hmem rfl
        exact hip (List.mem_singleton.mp hmem ▸ hip')
    exact ih hstep

/-- Addresses that are gathered where none were are each taken where they stand first. -/
lemma addNew_nil (new : List IpAddress) : addNew [] new = new.eraseDups := by
  simp [addNew_eq_append]

lemma nodup_eraseDups (ips : List IpAddress) : ips.eraseDups.Nodup :=
  addNew_nil ips ▸ nodup_addNew List.nodup_nil ips

/-- The results are gone through in order, and their addresses are gathered. -/
lemma foldl_addNew_found (results : List (Except Error Message)) :
    results.foldl (fun ips result => addNew ips (addresses.found result)) []
      = (results.flatMap addresses.found).eraseDups := by
  rw [← addNew_nil, addNew, List.foldl_flatMap]
  rfl

lemma addresses_eq_ite (results : List (Except Error Message)) :
    addresses results =
      if results.flatMap addresses.found = [] ∧ results.filterMap addresses.failure? ≠ [] then
        .error (.aggregate (results.filterMap addresses.failure?))
      else .ok (results.flatMap addresses.found).eraseDups := by
  have hnil (ips : List IpAddress) : ips.eraseDups = [] ↔ ips = [] := by
    cases ips <;> simp [List.eraseDups_cons]
  simp only [addresses, foldl_addNew_found, Bool.and_eq_true, Bool.not_eq_true',
    List.isEmpty_eq_false_iff, List.isEmpty_iff, hnil]

/-! ### What a query finds -/

/-- A record holds an address. -/
def Holds (r : Record) : IpAddress → Prop
  | .v4 ip => r.resource = .a ip
  | .v6 ip => r.resource = .aaaa ip

/-- The addresses among the answers of the responses without an error, in order. -/
def offered (results : List (Except Error Message)) : List IpAddress :=
  (((Selection.responses results).filter Message.isNoError).flatMap (·.answers)).filterMap address?

/-- A response without an error has an address among its answers. -/
def Finds (result : Except Error Message) (ip : IpAddress) : Prop :=
  ∃ m, result = .ok m ∧ m.header.rcode = .noError ∧ ∃ r ∈ m.answers, Holds r ip

/-- There is no response, or none without an error. -/
def Fails (result : Except Error Message) : Prop :=
  ∀ m, result = .ok m → m.header.rcode ≠ .noError

/-- What a result is blamed on: the status of a response with an error, or the error of a query that
came to nothing. -/
inductive BlamedOn : Except Error Message → List Error → Prop where
  | answered {m : Message} (h : m.header.rcode = .noError) : BlamedOn (.ok m) []
  | refused {m : Message} (h : m.header.rcode ≠ .noError) :
      BlamedOn (.ok m) [.status m.header.rcode]
  | failed (e : Error) : BlamedOn (.error e) [e]

lemma isNoError_iff {m : Message} : m.isNoError = true ↔ m.header.rcode = .noError := by
  simp [Message.isNoError]

lemma address?_eq_some_iff {r : Record} : address? r = some ip ↔ Holds r ip := by
  unfold address? Holds
  cases r.resource <;> cases ip <;> simp

lemma flatMap_found (results : List (Except Error Message)) :
    results.flatMap addresses.found = offered results := by
  induction results with
  | nil => rfl
  | cons result results ih =>
    rw [List.flatMap_cons, ih]
    cases result with
    | error e => rfl
    | ok m =>
      have hresponses : Selection.responses (.ok m :: results)
          = m :: Selection.responses results := rfl
      rw [addresses.found, offered, offered, hresponses, List.filter_cons]
      split_ifs
      · rw [List.flatMap_cons, List.filterMap_append]
      · rfl

lemma mem_found_iff : ip ∈ addresses.found result ↔ Finds result ip := by
  cases result with
  | error e => simp [addresses.found, Finds]
  | ok m =>
    simp only [addresses.found, Finds, ← address?_eq_some_iff, ← isNoError_iff]
    split_ifs with hm
    · simp [hm]
    · simp [hm]

lemma blamedOn_iff {own : List Error} :
    BlamedOn result own ↔ own = (addresses.failure? result).toList := by
  constructor
  · rintro (h | h | e)
    · simp [addresses.failure?, isNoError_iff.mpr h]
    · simp [addresses.failure?, isNoError_iff, h]
    · rfl
  · rintro rfl
    cases result with
    | error e => exact .failed e
    | ok m =>
      by_cases hm : m.header.rcode = .noError
      · simpa [addresses.failure?, isNoError_iff.mpr hm] using BlamedOn.answered hm
      · simpa [addresses.failure?, isNoError_iff, hm] using BlamedOn.refused hm

lemma fails_iff : Fails result ↔ addresses.failure? result ≠ none := by
  cases result with
  | error e => simp [Fails, addresses.failure?]
  | ok m => simp [Fails, addresses.failure?, isNoError_iff]

/-! ### Lookups -/

/-- What comes of results: the addresses that they offer, each where it stands first, or, if they
offer none and one of them failed, what the results are blamed on, in order. -/
structure Gathers (results : List (Except Error Message))
    (outcome : Except Error (List IpAddress)) : Prop where
  nodup : ∀ ips, outcome = .ok ips → ips.Nodup
  eq_eraseDups : ∀ ips, outcome = .ok ips → ips = (offered results).eraseDups
  mem_iff : ∀ ips, outcome = .ok ips → ∀ ip, ip ∈ ips ↔ ∃ result ∈ results, Finds result ip
  keeps : ∀ result ∈ results, ∀ ip, Finds result ip → ∃ ips, outcome = .ok ips ∧ ip ∈ ips
  error_iff : (∃ e, outcome = .error e) ↔
    (∀ result ∈ results, ∀ ip, ¬ Finds result ip) ∧ ∃ result ∈ results, Fails result
  error_eq : ∀ e, outcome = .error e →
    ∃ causes, List.Forall₂ BlamedOn results causes ∧ e = .aggregate causes.flatten

lemma mem_offered_iff : ip ∈ offered results ↔ ∃ result ∈ results, Finds result ip := by
  simp only [← flatMap_found, List.mem_flatMap, mem_found_iff]

lemma blamedOn_filterMap (results : List (Except Error Message)) :
    ∃ causes, List.Forall₂ BlamedOn results causes
      ∧ results.filterMap addresses.failure? = causes.flatten := by
  refine ⟨results.map fun result => (addresses.failure? result).toList, ?_, ?_⟩
  · rw [List.forall₂_map_right_iff, List.forall₂_same]
    exact fun result _ => blamedOn_iff.mpr rfl
  · rw [List.filterMap_eq_flatMap_toList, List.flatMap_def]

/-- Nothing is found, and there is something to blame. -/
lemma comesToNothing_iff :
    (offered results = [] ∧ results.filterMap addresses.failure? ≠ []) ↔
      (∀ result ∈ results, ∀ ip, ¬ Finds result ip) ∧ ∃ result ∈ results, Fails result := by
  refine and_congr ?_ ?_
  · simp only [List.eq_nil_iff_forall_not_mem, mem_offered_iff]
    grind
  · simp [fails_iff, List.filterMap_eq_nil_iff]

lemma gathers_addresses (results : List (Except Error Message)) :
    Gathers results (addresses results) := by
  rw [addresses_eq_ite, flatMap_found]
  split_ifs with hnothing
  · obtain ⟨hnone, hfails⟩ := comesToNothing_iff.mp hnothing
    refine ⟨by simp, by simp, by simp, ?_, ?_, ?_⟩
    · exact fun result hresult ip hip => absurd hip (hnone result hresult ip)
    · exact iff_of_true ⟨_, rfl⟩ ⟨hnone, hfails⟩
    · rintro e h
      cases h
      obtain ⟨causes, hcauses, heq⟩ := blamedOn_filterMap results
      exact ⟨causes, hcauses, by rw [heq]⟩
  · refine ⟨?_, ?_, ?_, ?_, ?_, by simp⟩
    · rintro _ ⟨⟩
      exact nodup_eraseDups _
    · rintro _ ⟨⟩
      rfl
    · rintro _ ⟨⟩ ip
      rw [List.mem_eraseDups, mem_offered_iff]
    · intro result hresult ip hip
      refine ⟨_, rfl, ?_⟩
      rw [List.mem_eraseDups, mem_offered_iff]
      exact ⟨result, hresult, hip⟩
    · rw [← comesToNothing_iff]
      exact iff_of_false (by simp) hnothing

lemma lookup_eq_addresses (config : Config) (s : RecordType → Nat → Surroundings) (text : String) :
    (lookup config s text).result = addresses
      [(query config (s .a) text .a).result, (query config (s .aaaa) text .aaaa).result] := rfl

/-- A lookup gathers the addresses that its two queries find, those of the older version first. -/
theorem gathers_of_lookup {a aaaa : Except Error Message}
    (ha : (query config (s .a) text .a).result = a)
    (haaaa : (query config (s .aaaa) text .aaaa).result = aaaa) :
    Gathers [a, aaaa] (lookup config s text).result := by
  rw [lookup_eq_addresses, ha, haaaa]
  exact gathers_addresses [a, aaaa]

/-- What a server tells of a name: no address of the older version, and behind an alias the same
address of the newer version twice. -/
def hosted (type : RecordType) : Message :=
  let name : Name := ⟨[.text [0x61]]⟩
  let address : Record := { name, resource := .aaaa ⟨Vector.replicate 16 1⟩ }
  match type with
  | .aaaa =>
    { header := { id := 7, direction := .response }
      questions := [{ name, type }]
      answers := [{ name, resource := .cname .root }, address, address] }
  | _ =>
    { header := { id := 7, direction := .response, rcode := .nameError }
      questions := [{ name, type }] }

/-- The octets of these responses. -/
def hostedOctets : RecordType → Octets
  | .aaaa => [0, 7, 0x80, 0, 0, 1, 0, 3, 0, 0, 0, 0, 1, 0x61, 0, 0, 28, 0, 1]
    ++ [1, 0x61, 0, 0, 5, 0, 1, 0, 0, 0, 0, 0, 1, 0]
    ++ [1, 0x61, 0, 0, 28, 0, 1, 0, 0, 0, 0, 0, 16] ++ List.replicate 16 1
    ++ [1, 0x61, 0, 0, 28, 0, 1, 0, 0, 0, 0, 0, 16] ++ List.replicate 16 1
  | _ => [0, 7, 0x80, 3, 0, 1, 0, 0, 0, 0, 0, 0, 1, 0x61, 0, 0, 1, 0, 1]

/-- That server, asked for records of a type. -/
def hosting (type : RecordType) : Surroundings where
  id := 7
  bits := fun _ _ _ => false
  reply := fun _ _ => .ok { octets := hostedOctets type }
  order := [0]

/-- How its response is received. -/
def received (type : RecordType) : Message :=
  { hosted type with
    provenance := some ⟨0, { seconds := 0 }, ⟨.v4 (.ofOctets 127 0 0 1), 53⟩, .udp, 19,
      (hostedOctets type).length⟩ }

lemma result_query_hosting {type : RecordType} (htype : type = .a ∨ type = .aaaa) :
    (query udpOnly (fun _ => hosting type) "a." type).result = .ok (received type) := by
  let name : Name := ⟨[.text [0x61]]⟩
  let c : Call := ⟨udpOnly, { name, type }, true⟩
  let d : Delivery := { octets := hostedOctets type }
  let e : Exchange := c.exchange (hosting type) 0 ⟨.v4 (.ofOctets 127 0 0 1), 53⟩ .udp
  have hvalid : name.IsValid := by decide
  have hname : Name.parse "a." = .ok name := Name.parse_text hvalid.isSized (by decide)
  have hquery : query udpOnly (fun _ => hosting type) "a." type
      = resolve udpOnly (hosting type) { name, type } := by
    have hblank : (Text.trim "a.".toList).isEmpty = false := by decide
    have htrim : String.ofList (Text.trim "a.".toList) = "a." := by decide
    simp only [query, hblank, htrim, hname]
    rfl
  have hdecode : Message.decode d.octets = .ok (hosted type) := by
    rcases htype with rfl | rfl
    · exact Message.decode_of_encode (m := hosted .a) ⟨by decide, by decide⟩ rfl
    · exact Message.decode_of_encode (m := hosted .aaaa) ⟨by decide, by decide⟩ rfl
  have haccept : c.accept (hosting type) e d = .ok (received type) := by
    rw [Call.accept, hdecode]
    rcases htype with rfl | rfl <;> rfl
  have hrace : (resolve udpOnly (hosting type) { name, type }).result
      = Selection.race [c.accept (hosting type) e d] := by
    rcases htype with rfl | rfl <;> rfl
  rw [hquery, hrace, haccept]
  rcases htype with rfl | rfl <;> rfl

theorem gathers_of_lookup_oneVersion :
    let s : RecordType → Nat → Surroundings := fun type _ => hosting type
    (query udpOnly (s .a) "a." .a).result = .ok (received .a) ∧
      (query udpOnly (s .aaaa) "a." .aaaa).result = .ok (received .aaaa) ∧
      Gathers [.ok (received .a), .ok (received .aaaa)] (lookup udpOnly s "a.").result ∧
      Fails (.ok (received .a)) ∧
      (lookup udpOnly s "a.").result = .ok [.v6 ⟨Vector.replicate 16 1⟩] := by
  intro s
  have ha : (query udpOnly (s .a) "a." .a).result = .ok (received .a) :=
    result_query_hosting (.inl rfl)
  have haaaa : (query udpOnly (s .aaaa) "a." .aaaa).result = .ok (received .aaaa) :=
    result_query_hosting (.inr rfl)
  have hfound : (lookup udpOnly s "a.").result = .ok [.v6 ⟨Vector.replicate 16 1⟩] := by
    rw [lookup_eq_addresses, ha, haaaa]
    rfl
  have hfails : Fails (.ok (received .a)) := by
    rintro m ⟨⟩
    decide
  exact ⟨ha, haaaa, gathers_of_lookup ha haaaa, hfails, hfound⟩

end Resolver

end StubResolver
