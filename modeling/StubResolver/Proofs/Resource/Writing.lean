import StubResolver.Proofs.Resource.Wire

/-!
# Writing records

A record fails to be written for a local part or a string that its length octet cannot count, or
for data that are longer than their length can say. Only the first and the last of these befall a
record that fits the wire. The length of what is written is known beforehand.
-/

namespace StubResolver

/-- The data of a resource are too many octets, `n` of them, for a record. -/
def Resource.HasLongData (r : Resource) (n : Nat) : Prop :=
  Record.maxDataLength < n ∧ ∃ data, r.encode = .ok data ∧ data.length = n

/-- The local part of the mailbox of a resource is too many octets, `n` of them, for a label. -/
def Resource.HasLongLocalPart (r : Resource) (n : Nat) : Prop :=
  Label.maxLength < n ∧ ∃ m ∈ r.mailbox?, m.localOctets.length = n

/-- The first string of a resource that is too long has `n` octets. -/
def Resource.HasLongString (r : Resource) (n : Nat) : Prop :=
  ∃ strings s, r = .txt strings ∧ strings.find? (maxStringLength < ·.length) = some s
    ∧ s.length = n

namespace Resource

variable {r : Resource} {e : Error} {n : Nat} {data : Octets}

/-! ### Strings -/

/-- Strings fail to be written as the first of them does that is too long. -/
lemma mapM_encodeString_eq_error_iff {strings : List Octets} :
    strings.mapM encodeString = .error e ↔
      ∃ s, strings.find? (maxStringLength < ·.length) = some s
        ∧ e = .format (.stringTooLong s.length) := by
  have hok (s : Octets) : (∃ o, encodeString s = .ok o) ↔ ¬ maxStringLength < s.length := by
    unfold encodeString
    split_ifs with h <;> simp [h]
  have herror (s : Octets) : encodeString s = .error e
      ↔ maxStringLength < s.length ∧ e = .format (.stringTooLong s.length) := by
    unfold encodeString
    split_ifs with h <;> simp [h, eq_comm]
  simp only [mapM_eq_error_iff, hok, herror, List.find?_eq_some_iff_append, decide_eq_true_eq,
    Bool.not_eq_true', decide_eq_false_iff_not]
  constructor
  · rintro ⟨before, s, after, rfl, hbefore, hs, rfl⟩
    exact ⟨s, ⟨hs, before, after, rfl, hbefore⟩, rfl⟩
  · rintro ⟨s, ⟨hs, before, after, rfl, hbefore⟩, rfl⟩
    exact ⟨before, s, after, rfl, hbefore, hs, rfl⟩

lemma length_of_encodeString {s o : Octets} (h : encodeString s = .ok o) :
    o.length = 1 + s.length := by
  unfold encodeString at h
  split_ifs at h
  cases h
  rw [List.length_cons, Nat.add_comm]

/-! ### Data -/

lemma exists_hasLongLocalPart_iff :
    (∃ n, r.HasLongLocalPart n) ↔ ∃ m ∈ r.mailbox?, Label.maxLength < m.localOctets.length := by
  constructor
  · rintro ⟨n, hlong, m, hm, rfl⟩
    exact ⟨m, hm, hlong⟩
  · rintro ⟨m, hm, hlong⟩
    exact ⟨_, hlong, m, hm, rfl⟩

lemma exists_hasLongString_iff :
    (∃ n, r.HasLongString n) ↔ ∃ strings, r = .txt strings
      ∧ ∃ s ∈ strings, maxStringLength < s.length := by
  have hfind (strings : List Octets) : (∃ s ∈ strings, maxStringLength < s.length)
      ↔ ∃ s, strings.find? (maxStringLength < ·.length) = some s := by
    rw [← Option.isSome_iff_exists, List.find?_isSome]
    simp
  simp only [hfind]
  constructor
  · rintro ⟨n, strings, s, hr, hs, -⟩
    exact ⟨strings, hr, s, hs⟩
  · rintro ⟨strings, hr, s, hs⟩
    exact ⟨_, strings, s, hr, hs, rfl⟩

/-- Data fail to be written for a long local part or a long string. -/
lemma encode_eq_error_iff :
    r.encode = .error e ↔
      (∃ n, r.HasLongLocalPart n ∧ e = .format (.localPartTooLong n))
        ∨ ∃ n, r.HasLongString n ∧ e = .format (.stringTooLong n) := by
  cases r with
  | soa s =>
    simp only [encode, except_bind_eq_error_iff, Mailbox.toName_eq_ite]
    constructor
    · rintro (h | ⟨name, _, h⟩)
      · split_ifs at h with hlong
        cases h
        exact Or.inl ⟨_, ⟨hlong, s.mailbox, rfl, rfl⟩, rfl⟩
      · cases h
    · rintro (⟨n, ⟨hlong, m, ⟨⟩, rfl⟩, rfl⟩ | ⟨n, ⟨strings, s, ⟨⟩, -⟩, -⟩)
      exact Or.inl (if_pos hlong)
  | txt strings =>
    rw [encode, except_bind_eq_error_iff, mapM_encodeString_eq_error_iff]
    constructor
    · rintro (⟨s, hs, rfl⟩ | ⟨encoded, -, h⟩)
      · exact Or.inr ⟨_, ⟨strings, s, rfl, hs, rfl⟩, rfl⟩
      · cases h
    · rintro (⟨n, ⟨-, m, ⟨⟩, -⟩, -⟩ | ⟨n, ⟨_, s, ⟨⟩, hs, rfl⟩, rfl⟩)
      exact Or.inl ⟨s, hs, rfl⟩
  | _ => simp [encode, HasLongLocalPart, HasLongString, mailbox?]

/-- Strings that fit the wire are not too long. -/
lemma not_hasLongString (hr : r.IsValid) : ¬ r.HasLongString n := by
  intro h
  obtain ⟨strings, rfl, s, hs, hlong⟩ := exists_hasLongString_iff.mp ⟨n, h⟩
  exact Nat.not_lt.mpr (hr s hs) hlong

lemma HasLongLocalPart.encode_eq (h : r.HasLongLocalPart n) :
    r.encode = .error (.format (.localPartTooLong n)) :=
  encode_eq_error_iff.mpr (Or.inl ⟨n, h, rfl⟩)

/-- Data whose local part is too long have no length that could be too long. -/
lemma HasLongLocalPart.not_hasLongData (h : r.HasLongLocalPart n) (k : Nat) :
    ¬ r.HasLongData k := by
  rintro ⟨-, data, hdata, -⟩
  rw [h.encode_eq] at hdata
  cases hdata

/-- The number of octets of the data on the wire, found without encoding. -/
def dataLength : Resource → Nat
  | a _ => 4
  | aaaa _ => 16
  | ns server => server.wireLength
  | cname target => target.wireLength
  | mx _ exchange => 2 + exchange.wireLength
  | soa s => s.primary.wireLength + s.mailbox.nameForm.wireLength + 20
  | txt strings => (strings.map fun s => 1 + s.length).sum
  | unknown _ data => data.length

lemma length_of_encode (h : r.encode = .ok data) : data.length = r.dataLength := by
  cases r with
  | soa s =>
    obtain ⟨name, hname, h⟩ := except_bind_eq_ok_iff.mp h
    rw [Mailbox.toName_eq_ite] at hname
    split_ifs at hname
    cases hname
    cases h
    simp [dataLength, encodeSeconds, Nat.add_assoc]
  | txt strings =>
    obtain ⟨encoded, hencoded, h⟩ := except_bind_eq_ok_iff.mp h
    cases h
    exact length_flatten_of_mapM (fun _ _ => length_of_encodeString) hencoded
  | mx preference exchange =>
    cases h
    rw [List.length_append, Name.length_encode]
    rfl
  | _ =>
    cases h
    simp [dataLength]

end Resource

namespace Record

variable {r : Record} {e : Error} {n : Nat} {octets : Octets}

lemma encode_of_hasLongLocalPart (h : r.resource.HasLongLocalPart n) :
    r.encode = .error (.format (.localPartTooLong n)) := by
  rw [encode, h.encode_eq]
  rfl

lemma encode_of_hasLongData (h : r.resource.HasLongData n) :
    r.encode = .error (.format (.dataTooLong n)) := by
  obtain ⟨hlong, data, hdata, rfl⟩ := h
  rw [encode, hdata, ok_bind, if_pos hlong]

/-- A record fails to be written as its data do, or for long data. -/
lemma encode_eq_error_iff :
    r.encode = .error e ↔
      r.resource.encode = .error e
        ∨ ∃ n, r.resource.HasLongData n ∧ e = .format (.dataTooLong n) := by
  rw [encode, except_bind_eq_error_iff]
  apply or_congr_right
  constructor
  · rintro ⟨data, hdata, h⟩
    split_ifs at h with hlong
    · cases h
      exact ⟨_, ⟨hlong, data, hdata, rfl⟩, rfl⟩
    · cases h
  · rintro ⟨n, ⟨hlong, data, hdata, rfl⟩, rfl⟩
    exact ⟨data, hdata, if_pos hlong⟩

lemma encode_eq_error_iff_of_isValid (hr : r.IsValid) :
    r.encode = .error e ↔
      (∃ n, r.resource.HasLongLocalPart n ∧ e = .format (.localPartTooLong n))
        ∨ ∃ n, r.resource.HasLongData n ∧ e = .format (.dataTooLong n) := by
  have hstrings : ¬ ∃ n, r.resource.HasLongString n ∧ e = .format (.stringTooLong n) := by
    rintro ⟨n, hn, -⟩
    exact Resource.not_hasLongString hr.2 hn
  rw [encode_eq_error_iff, Resource.encode_eq_error_iff, or_iff_left hstrings]

end Record

end StubResolver
