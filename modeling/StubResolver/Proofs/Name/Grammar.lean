import Mathlib.Data.List.TakeWhile
import StubResolver.Name.Parse
import StubResolver.Proofs.Text.Digits
import StubResolver.Proofs.Text.Utf8

/-!
# The grammar of names

A text is read as a name exactly if it writes that name. What a text writes is said without a
reader: characters write items, items write labels, and labels with points between them write
names. The function that finds ASCII forms may be any partial function.
-/

namespace StubResolver

namespace Label

variable {toAscii : Idna.Converter} {cs body rest : List Char} {l : Label} {item : Item}
  {items done : List Item}

/-! ### Items -/

/-- Characters write an item: a character that is plain or needs an ASCII form, three decimal
digits behind a backslash, or another character behind a backslash. -/
inductive Item.IsWritten : List Char → Item → Prop where
  | plain {c : Char} (hc : isPlain c = true) : IsWritten [c] (.octet (.ofNat c.toNat))
  | foreign {c : Char} (hc : isPlain c = false) (hpoint : c ≠ '.') (hslash : c ≠ '\\') :
      IsWritten [c] (.foreign c)
  | decimal {d e f : Char} (hdigits : ∀ c ∈ [d, e, f], c.isDigit = true)
      (hvalue : Numeral.value [d, e, f] ≤ 255) :
      IsWritten ['\\', d, e, f] (.octet (.ofNat (Numeral.value [d, e, f])))
  | escaped {c : Char} (hdigit : c.isDigit = false) (hascii : c.toNat < 0x80) :
      IsWritten ['\\', c] (.octet (.ofNat c.toNat))
  | escapedForeign {c : Char} (hascii : 0x80 ≤ c.toNat) : IsWritten ['\\', c] (.foreign c)

/-- Characters write items, one behind the other. -/
inductive ItemsWritten : List Char → List Item → Prop where
  | nil : ItemsWritten [] []
  | cons {cs cs' : List Char} {item : Item} {items : List Item} (h : item.IsWritten cs)
      (hs : ItemsWritten cs' items) : ItemsWritten (cs ++ cs') (item :: items)

/-! ### Reading items -/

lemma itemsOnto_unescaped {c : Char} (hpoint : c ≠ '.') (hslash : c ≠ '\\') :
    itemsOnto done (c :: rest) = itemsOnto (Item.ofChar c :: done) rest := by
  rw [itemsOnto]
  · exact hpoint
  · exact fun h _ => hslash h
  · exact fun _ _ h _ => hslash h

lemma itemsOnto_escaped {c : Char} (hdigit : c.isDigit = false) :
    itemsOnto done ('\\' :: c :: rest) = itemsOnto (Item.ofEscaped c :: done) rest := by
  simp [itemsOnto, Numeral.digit?, hdigit]

lemma itemsOnto_decimal {d e f : Char} (hdigits : ∀ c ∈ [d, e, f], c.isDigit = true)
    (hvalue : Numeral.value [d, e, f] ≤ 255) :
    itemsOnto done ('\\' :: d :: e :: f :: rest)
      = itemsOnto (.octet (.ofNat (Numeral.value [d, e, f])) :: done) rest := by
  simp only [List.forall_mem_cons] at hdigits
  obtain ⟨hd, he, hf, -⟩ := hdigits
  simp only [itemsOnto, Numeral.digit?, hd, he, hf, if_true, ← Numeral.value_three]
  rw [if_neg (by omega)]

/-- An item that is written is read, whatever follows. -/
lemma itemsOnto_of_isWritten (h : item.IsWritten cs) :
    itemsOnto done (cs ++ rest) = itemsOnto (item :: done) rest := by
  cases h with
  | @plain c hc =>
    have hne {d : Char} (hd : isPlain d = false) : c ≠ d := by
      rintro rfl
      rw [hc] at hd
      cases hd
    rw [List.singleton_append, itemsOnto_unescaped (hne rfl) (hne rfl), Item.ofChar, if_pos hc]
  | @foreign c hc hpoint hslash =>
    rw [List.singleton_append, itemsOnto_unescaped hpoint hslash, Item.ofChar,
      if_neg (by simp [hc])]
  | decimal hdigits hvalue => exact itemsOnto_decimal hdigits hvalue
  | @escaped c hdigit hascii =>
    have hitem : Item.ofEscaped c = .octet (.ofNat c.toNat) := if_pos hascii
    rw [← hitem]
    exact itemsOnto_escaped hdigit
  | @escapedForeign c hascii =>
    have hitem : Item.ofEscaped c = .foreign c := if_neg (by omega)
    rw [← hitem]
    exact itemsOnto_escaped (Numeral.isDigit_eq_false_of_le hascii)

lemma itemsOnto_of_itemsWritten (h : ItemsWritten cs items) :
    itemsOnto done (cs ++ rest) = itemsOnto (items.reverse ++ done) rest := by
  induction h generalizing done with
  | nil => rfl
  | cons h _ ih =>
    rw [List.append_assoc, itemsOnto_of_isWritten h, ih]
    simp

lemma isWritten_ofChar {c : Char} (hpoint : c ≠ '.') (hslash : c ≠ '\\') :
    (Item.ofChar c).IsWritten [c] := by
  unfold Item.ofChar
  split_ifs with hc
  · exact .plain hc
  · exact .foreign (by simpa using hc) hpoint hslash

lemma isWritten_ofEscaped {c : Char} (hdigit : c.isDigit = false) :
    (Item.ofEscaped c).IsWritten ['\\', c] := by
  unfold Item.ofEscaped
  split_ifs with hascii
  · exact .escaped hdigit hascii
  · exact .escapedForeign (by omega)

/-- A text begins with characters, and ends with them or goes on behind a point. -/
def BeginsWith (cs written rest : List Char) : Prop :=
  cs = written ∧ rest = [] ∨ cs = written ++ '.' :: rest

lemma BeginsWith.append {written : List Char} (h : BeginsWith cs written rest) (front : List Char) :
    BeginsWith (front ++ cs) (front ++ written) rest := by
  rcases h with ⟨rfl, rfl⟩ | rfl
  · exact .inl ⟨rfl, rfl⟩
  · exact .inr (List.append_assoc front written _).symm

/-- The text up to a point, or to its end, writes items that stand behind others, reversed. -/
def WritesBehind (done : List Item) (cs : List Char) (items : List Item) (rest : List Char) :
    Prop :=
  ∃ written new, ItemsWritten written new ∧ items = done.reverse ++ new ∧
    BeginsWith cs written rest

/-- An item in front of a text moves to the items before it. -/
lemma WritesBehind.cons {front : List Char} (h : WritesBehind (item :: done) cs items rest)
    (hitem : item.IsWritten front) : WritesBehind done (front ++ cs) items rest := by
  obtain ⟨written, new, hwritten, hitems, hbegins⟩ := h
  exact ⟨front ++ written, item :: new, .cons hitem hwritten, by simpa using hitems,
    hbegins.append front⟩

/-- Items are read exactly if the text up to a point, or to its end, writes them. -/
lemma itemsOnto_eq_ok_iff :
    itemsOnto done cs = .ok (items, rest) ↔ WritesBehind done cs items rest := by
  constructor
  · intro h
    fun_induction itemsOnto done cs with
    | case1 done =>
      cases h
      exact ⟨[], [], .nil, by simp, .inl ⟨rfl, rfl⟩⟩
    | case2 done rest' =>
      cases h
      exact ⟨[], [], .nil, by simp, .inr rfl⟩
    | case3 => cases h
    | case4 done c rest' hdigit ih =>
      exact (ih h).cons (isWritten_ofEscaped (Numeral.digit?_eq_none_iff.mp hdigit))
    | case5 => cases h
    | case6 done c hundreds hhundreds d e rest' tens ones hones htens n hn ih =>
      obtain ⟨hc, rfl⟩ := Numeral.digit?_eq_some_iff.mp hhundreds
      obtain ⟨hd, rfl⟩ := Numeral.digit?_eq_some_iff.mp htens
      obtain ⟨he, rfl⟩ := Numeral.digit?_eq_some_iff.mp hones
      have hvalue : n = Numeral.value [c, d, e] := (Numeral.value_three c d e).symm
      rw [hvalue] at hn h ih
      exact (ih h).cons (.decimal (by simp [hc, hd, he]) (by omega))
    | case7 => cases h
    | case8 => cases h
    | case9 done c rest' hpoint hslash hslash' ih =>
      have hslash : c ≠ '\\' := by
        rintro rfl
        cases rest' with
        | nil => exact hslash rfl rfl
        | cons d rest' => exact hslash' d rest' rfl rfl
      exact (ih h).cons (isWritten_ofChar hpoint hslash)
  · rintro ⟨written, new, hwritten, rfl, ⟨rfl, rfl⟩ | rfl⟩
    · rw [← List.append_nil cs, itemsOnto_of_itemsWritten hwritten, itemsOnto]
      simp
    · rw [itemsOnto_of_itemsWritten hwritten, itemsOnto]
      simp

/-! ### Labels of bits -/

/-- The body of a bracket writes a label of bits: octets in hexadecimal digits behind an x, and
perhaps the number of bits behind a slash. -/
inductive BitsWritten : List Char → Label → Prop where
  | all {x : Char} {digits : List Char} {octets : Octets} (hx : x = 'x' ∨ x = 'X')
      (h : Hex.Writes digits octets) (hne : octets ≠ []) (hlen : octets.length ≤ 32) :
      BitsWritten (x :: digits) (.bits octets (8 * octets.length))
  | counted {x : Char} {digits numeral : List Char} {octets : Octets} {count : Nat}
      (hx : x = 'x' ∨ x = 'X') (h : Hex.Writes digits octets)
      (hcount : Numeral.Writes numeral count) (hpos : 1 ≤ count) (hmax : count ≤ maxBits)
      (hlen : octets.length = octetsFor count) :
      BitsWritten (x :: (digits ++ '/' :: numeral)) (.bits octets count)

lemma isValid_allBits {octets : Octets} (hne : octets ≠ []) (hlen : octets.length ≤ 32) :
    (bits octets (8 * octets.length)).IsValid := by
  have hpos := List.length_pos_iff.mpr hne
  unfold IsValid maxBits octetsFor
  omega

lemma IsValid.octets_bounds {octets : Octets} {count : Nat} (h : (bits octets count).IsValid) :
    octets ≠ [] ∧ octets.length ≤ 32 := by
  unfold IsValid maxBits octetsFor at h
  rw [← List.length_pos_iff]
  omega

lemma BitsWritten.isValid (h : BitsWritten body l) : l.IsValid := by
  cases h with
  | all hx h hne hlen => exact isValid_allBits hne hlen
  | counted hx h hcount hpos hmax hlen => exact ⟨hpos, hmax, hlen⟩

/-! ### Reading labels of bits -/

lemma takeWhile_ne_append {a : Char} (h : a ∉ cs) : (cs ++ a :: rest).takeWhile (· ≠ a) = cs := by
  rw [List.takeWhile_append_of_pos, List.takeWhile_cons_of_neg, List.append_nil]
  · simp
  · intro c hc
    simpa using ne_of_mem_of_not_mem hc h

lemma dropWhile_ne_append {a : Char} (h : a ∉ cs) :
    (cs ++ a :: rest).dropWhile (· ≠ a) = a :: rest := by
  rw [List.dropWhile_append_of_pos, List.dropWhile_cons_of_neg]
  · simp
  · intro c hc
    simpa using ne_of_mem_of_not_mem hc h

/-- Two texts that are cut at the first character of a kind are cut at the same place. -/
lemma append_cons_inj {a : Char} {cs' rest' : List Char} (hcs : a ∉ cs) (hcs' : a ∉ cs')
    (h : cs ++ a :: rest = cs' ++ a :: rest') : cs = cs' ∧ rest = rest' := by
  have hfront := congrArg (List.takeWhile (· ≠ a)) h
  rw [takeWhile_ne_append hcs, takeWhile_ne_append hcs'] at hfront
  subst hfront
  exact ⟨rfl, (List.cons.inj (List.append_cancel_left h)).2⟩

lemma takeWhile_ne_eq_self {a : Char} (h : a ∉ cs) : cs.takeWhile (· ≠ a) = cs := by
  rw [List.takeWhile_eq_self_iff]
  intro c hc
  simpa using ne_of_mem_of_not_mem hc h

lemma dropWhile_ne_eq_nil {a : Char} (h : a ∉ cs) : cs.dropWhile (· ≠ a) = [] := by
  rw [List.dropWhile_eq_nil_iff]
  intro c hc
  simpa using ne_of_mem_of_not_mem hc h

lemma notMem_of_writes {digits : List Char} {octets : Octets} {a : Char}
    (h : Hex.Writes digits octets) (ha : Hex.isDigit a = false) : a ∉ digits := by
  intro hmem
  rw [h.isDigit a hmem] at ha
  cases ha

lemma bitCount_cons_eq_ok_iff {octets : Octets} {slash : Char} {numeral : List Char} {count : Nat} :
    ofBitsBody.bitCount octets (slash :: numeral) = .ok count ↔
      Numeral.Writes numeral count ∧ count ≤ 65535 := by
  rw [← Numeral.ofChars_eq_ok_iff, ofBitsBody.bitCount]
  cases Numeral.ofChars 65535 numeral <;> simp

/-- What is checked of the body of a bracket. -/
lemma ofBitsBody_cons_eq_ok_iff {x : Char} : ofBitsBody (x :: body) = .ok l ↔
    (x = 'x' ∨ x = 'X') ∧ ∃ octets count, Hex.Writes (body.takeWhile (· ≠ '/')) octets ∧
      ofBitsBody.bitCount octets (body.dropWhile (· ≠ '/')) = .ok count ∧
      (bits octets count).IsValid ∧ l = .bits octets count := by
  simp only [← Hex.octets?_eq_some_iff]
  unfold ofBitsBody
  dsimp only
  split_ifs with hx
  · simp [hx]
  have hx : x = 'x' ∨ x = 'X' := by
    by_contra hnone
    exact hx (not_or.mp hnone)
  cases Hex.octets? (body.takeWhile (· ≠ '/')) with
  | none => simp
  | some octets =>
    dsimp only
    constructor
    · intro h
      split_ifs at h
      obtain ⟨count, hbits, h⟩ := except_bind_eq_ok_iff.mp h
      split_ifs at h with hcount
      cases h
      exact ⟨hx, octets, count, rfl, hbits, ⟨by omega, by omega, by omega⟩, rfl⟩
    · rintro ⟨-, octets', count, hoctets, hbits, hvalid, rfl⟩
      cases hoctets
      obtain ⟨hne, hsize⟩ := hvalid.octets_bounds
      obtain ⟨hpos, hmax, hlen⟩ := hvalid
      have hgood : ¬ (octets.isEmpty = true ∨ octetsFor maxBits < octets.length) := by
        rw [List.isEmpty_iff]
        exact not_or.mpr ⟨hne, Nat.not_lt.mpr hsize⟩
      rw [if_neg hgood, hbits, ok_bind, if_neg (by omega), except_pure]

/-- The body of a bracket is read exactly if it writes a label of bits. -/
lemma ofBitsBody_eq_ok_iff : ofBitsBody body = .ok l ↔ BitsWritten body l := by
  constructor
  · intro h
    obtain _ | ⟨x, body⟩ := body
    · cases h
    obtain ⟨hx, octets, count, hdigits, hcount, hvalid, rfl⟩ := ofBitsBody_cons_eq_ok_iff.mp h
    by_cases hslash : '/' ∈ body
    · obtain ⟨digits, numeral, rfl, hnone⟩ := List.eq_append_cons_of_mem hslash
      rw [takeWhile_ne_append hnone] at hdigits
      rw [dropWhile_ne_append hnone, bitCount_cons_eq_ok_iff] at hcount
      obtain ⟨hpos, hmax, hlen⟩ := hvalid
      exact .counted hx hdigits hcount.1 hpos hmax hlen
    · rw [takeWhile_ne_eq_self hslash] at hdigits
      rw [dropWhile_ne_eq_nil hslash] at hcount
      cases hcount
      obtain ⟨hne, hsize⟩ := hvalid.octets_bounds
      exact .all hx hdigits hne hsize
  · intro hwritten
    have hvalid := hwritten.isValid
    cases hwritten with
    | all hx h hne hsize =>
      have hslash := notMem_of_writes (a := '/') h (by decide)
      refine ofBitsBody_cons_eq_ok_iff.mpr ⟨hx, _, _, ?_, ?_, hvalid, rfl⟩
      · rwa [takeWhile_ne_eq_self hslash]
      · rw [dropWhile_ne_eq_nil hslash, ofBitsBody.bitCount]
    | counted hx h hcount hpos hmax hlen =>
      have hslash := notMem_of_writes (a := '/') h (by decide)
      refine ofBitsBody_cons_eq_ok_iff.mpr ⟨hx, _, _, ?_, ?_, hvalid, rfl⟩
      · rwa [takeWhile_ne_append hslash]
      · rw [dropWhile_ne_append hslash]
        exact bitCount_cons_eq_ok_iff.mpr ⟨hcount, Nat.le_trans hmax (by decide)⟩

/-- The body of a bracket does not hold the bracket behind it. -/
lemma BitsWritten.notMem (h : BitsWritten body l) : ']' ∉ body := by
  have hx : ∀ {x : Char}, x = 'x' ∨ x = 'X' → ']' ≠ x := by
    rintro x (rfl | rfl) <;> decide
  cases h with
  | all h' h _ _ =>
    simp [hx h', notMem_of_writes (a := ']') h (by decide)]
  | counted h' h hcount _ _ _ =>
    obtain ⟨digits, hsign, -, hdigits, -⟩ := hcount
    have hnumeral : ']' ∉ digits := fun hmem => absurd (hdigits _ hmem) (by decide)
    rcases hsign with rfl | rfl <;>
      simp [hx h', notMem_of_writes (a := ']') h (by decide), hnumeral]

/-- What stands in brackets is read exactly if it writes a label of bits, and if a point or nothing
follows. -/
lemma readBits_eq_ok_iff : readBits cs = .ok (l, rest) ↔
    ∃ body, BitsWritten body l ∧ BeginsWith cs (body ++ [']']) rest := by
  constructor
  · intro h
    by_cases hbracket : ']' ∈ cs
    · obtain ⟨body, tail, rfl, hnone⟩ := List.eq_append_cons_of_mem hbracket
      simp only [readBits, takeWhile_ne_append hnone, dropWhile_ne_append hnone] at h
      split at h
      · cases h
      next label hbody =>
        have hwritten := ofBitsBody_eq_ok_iff.mp hbody
        split at h
        · cases h
          exact ⟨body, hwritten, .inl ⟨rfl, rfl⟩⟩
        · split_ifs at h with hpoint
          cases h
          subst hpoint
          exact ⟨body, hwritten, .inr (by simp)⟩
    · simp only [readBits, dropWhile_ne_eq_nil hbracket] at h
      cases h
  · rintro ⟨body, hwritten, ⟨rfl, rfl⟩ | rfl⟩
    · simp only [readBits, takeWhile_ne_append hwritten.notMem, dropWhile_ne_append hwritten.notMem,
        ofBitsBody_eq_ok_iff.mpr hwritten]
    · simp only [List.append_assoc, List.singleton_append, readBits,
        takeWhile_ne_append hwritten.notMem, dropWhile_ne_append hwritten.notMem,
        ofBitsBody_eq_ok_iff.mpr hwritten, if_true]

/-! ### Labels -/

/-- The first label of a text is not one of bits. -/
def StartsWithText (cs : List Char) : Prop := ¬ ['\\', '['] <+: cs

/-- A text writes a label: bits in brackets, octets as they are, or, where an item needs it, the
ASCII form of the text that the octets encode. -/
inductive IsWritten (toAscii : Idna.Converter) : List Char → Label → Prop where
  | bits {body : List Char} {l : Label} (h : BitsWritten body l) :
      IsWritten toAscii ('\\' :: '[' :: (body ++ [']'])) l
  | verbatim {cs : List Char} {items : List Item} (hstart : StartsWithText cs)
      (h : ItemsWritten cs items) (hne : items ≠ [])
      (hplain : ∀ item ∈ items, item.isForeign = false)
      (hlen : (items.flatMap Item.octets).length ≤ maxLength) :
      IsWritten toAscii cs (.text (items.flatMap Item.octets))
  | internationalised {cs written ascii : List Char} {items : List Item}
      (hstart : StartsWithText cs) (h : ItemsWritten cs items)
      (hforeign : ∃ item ∈ items, item.isForeign = true)
      (hwritten : Utf8.encode written = items.flatMap Item.octets)
      (hascii : toAscii written = .ok ascii) (hpoint : '.' ∉ ascii)
      (hlen : (Utf8.encode ascii).length ≤ maxLength) :
      IsWritten toAscii cs (.text (Utf8.encode ascii))

/-! ### Reading labels -/

lemma startsWithText_iff_of_beginsWith {written : List Char} (h : BeginsWith cs written rest) :
    StartsWithText cs ↔ StartsWithText written := by
  rcases h with ⟨rfl, -⟩ | rfl
  · rfl
  · obtain _ | ⟨a, _ | ⟨b, written⟩⟩ := written <;> simp [StartsWithText]

lemma ofOctets_eq_ok_iff {octets : Octets} :
    ofOctets octets = .ok l ↔ octets.length ≤ maxLength ∧ l = .text octets := by
  unfold ofOctets
  split_ifs with h
  · simp [Nat.not_le.mpr h]
  · simp [Nat.not_lt.mp h, eq_comm]

/-- Items are read as a label with or without an ASCII form, as one of them needs it or none. -/
lemma ofItems_eq_ok_iff : ofItems toAscii items = .ok l ↔
    (items ≠ [] ∧ (∀ item ∈ items, item.isForeign = false) ∧
        (items.flatMap Item.octets).length ≤ maxLength ∧ l = .text (items.flatMap Item.octets)) ∨
      (∃ item ∈ items, item.isForeign = true) ∧ ∃ written ascii,
        Utf8.encode written = items.flatMap Item.octets ∧ toAscii written = .ok ascii ∧
        '.' ∉ ascii ∧ (Utf8.encode ascii).length ≤ maxLength ∧ l = .text (Utf8.encode ascii) := by
  unfold ofItems
  dsimp only
  split_ifs with hempty hforeign
  · simp [List.isEmpty_iff.mp hempty]
  · have hsome := List.any_eq_true.mp hforeign
    have hnone : ¬ ∀ item ∈ items, item.isForeign = false := by simpa using hsome
    simp only [hnone, hsome, false_and, and_false, false_or, true_and, ← Utf8.decode?_eq_ok_iff]
    cases Utf8.decode? (items.flatMap Item.octets) with
    | error fault => simp
    | ok written =>
      dsimp only
      cases hascii : toAscii written with
      | error faults => simp [hascii]
      | ok ascii =>
        dsimp only
        split_ifs with hpoint
        · simp [hascii, hpoint]
        · simp [hascii, hpoint, ofOctets_eq_ok_iff]
  · have hnone : ∀ item ∈ items, item.isForeign = false := by simpa using hforeign
    have hsome : ¬ ∃ item ∈ items, item.isForeign = true := by simpa using hnone
    have hne : items ≠ [] := fun h => hempty (List.isEmpty_iff.mpr h)
    rw [ofOctets_eq_ok_iff]
    exact ⟨fun h => .inl ⟨hne, hnone, h⟩, fun h => (h.resolve_right fun h => hsome h.1).2.2⟩

/-- A label is read in one of two ways, by how the text begins. -/
lemma read_eq_ok_iff :
    read toAscii cs = .ok (l, rest) ↔
      (∃ body, cs = '\\' :: '[' :: body ∧ readBits body = .ok (l, rest)) ∨
        (StartsWithText cs ∧ ∃ items, itemsOnto [] cs = .ok (items, rest) ∧
          ofItems toAscii items = .ok l) := by
  unfold read
  split
  next body => simp [StartsWithText]
  next hcs =>
    have htext : StartsWithText cs := fun ⟨body, h⟩ => hcs body h.symm
    have hbits : ¬ ∃ body, cs = '\\' :: '[' :: body ∧ readBits body = .ok (l, rest) :=
      fun ⟨body, h, _⟩ => hcs body h
    simp only [hbits, htext, true_and, false_or]
    cases itemsOnto [] cs with
    | error fault => simp
    | ok r =>
      obtain ⟨items, rest'⟩ := r
      dsimp only
      cases hlabel : ofItems toAscii items <;> grind

/-- A label is read exactly if the text up to a point, or to its end, writes it. -/
lemma read_eq_ok_iff_isWritten : read toAscii cs = .ok (l, rest) ↔
    ∃ written, IsWritten toAscii written l ∧ BeginsWith cs written rest := by
  rw [read_eq_ok_iff]
  constructor
  · rintro (⟨body, rfl, hbits⟩ | ⟨htext, items, hitems, hlabel⟩)
    · obtain ⟨body, hbody, hbegins⟩ := readBits_eq_ok_iff.mp hbits
      exact ⟨_, .bits hbody, hbegins.append ['\\', '[']⟩
    · obtain ⟨written, items, hwritten, rfl, hbegins⟩ := itemsOnto_eq_ok_iff.mp hitems
      rw [startsWithText_iff_of_beginsWith hbegins] at htext
      rcases ofItems_eq_ok_iff.mp hlabel with
        ⟨hne, hplain, hlen, rfl⟩ | ⟨hforeign, text, ascii, htext', hascii, hpoint, hlen, rfl⟩
      · exact ⟨written, .verbatim htext hwritten hne hplain hlen, hbegins⟩
      · exact ⟨written, .internationalised htext hwritten hforeign htext' hascii hpoint hlen,
          hbegins⟩
  · rintro ⟨written, hwritten, hbegins⟩
    cases hwritten with
    | @bits body _ hbody =>
      obtain ⟨tail, rfl, htail⟩ :
          ∃ tail, cs = '\\' :: '[' :: tail ∧ BeginsWith tail (body ++ [']']) rest := by
        rcases hbegins with ⟨rfl, rfl⟩ | rfl
        · exact ⟨_, rfl, .inl ⟨rfl, rfl⟩⟩
        · exact ⟨_, rfl, .inr rfl⟩
      exact .inl ⟨tail, rfl, readBits_eq_ok_iff.mpr ⟨body, hbody, htail⟩⟩
    | verbatim hstart h hne hplain hlen =>
      refine .inr ⟨(startsWithText_iff_of_beginsWith hbegins).mpr hstart, _,
        itemsOnto_eq_ok_iff.mpr ⟨written, _, h, rfl, hbegins⟩, ?_⟩
      exact ofItems_eq_ok_iff.mpr (.inl ⟨hne, hplain, hlen, rfl⟩)
    | internationalised hstart h hforeign htext hascii hpoint hlen =>
      refine .inr ⟨(startsWithText_iff_of_beginsWith hbegins).mpr hstart, _,
        itemsOnto_eq_ok_iff.mpr ⟨written, _, h, rfl, hbegins⟩, ?_⟩
      exact ofItems_eq_ok_iff.mpr (.inr ⟨hforeign, _, _, htext, hascii, hpoint, hlen, rfl⟩)

/-- Nothing is written as no characters. -/
lemma not_isWritten_nil : ¬ IsWritten toAscii [] l := by
  intro h
  have hread : read toAscii [] = .ok (l, []) :=
    read_eq_ok_iff_isWritten.mpr ⟨[], h, .inl ⟨rfl, rfl⟩⟩
  cases hread

end Label

/-! ### Names -/

namespace Name

variable {toAscii : Idna.Converter} {t cs : List Char} {texts : List (List Char)}
  {n : Name} {done labels : List Label} {s : String}

/-- A text consists of others, with points between them and perhaps one behind the last. -/
def IsSeparated (texts : List (List Char)) (cs : List Char) : Prop :=
  cs = ['.'].intercalate texts ∨ cs = ['.'].intercalate texts ++ ['.']

/-- A text writes a name: it is empty or a point, which is the root, or it consists of texts that
write the labels. -/
def IsWritten (toAscii : Idna.Converter) (cs : List Char) (n : Name) : Prop :=
  (cs = [] ∨ cs = ['.']) ∧ n = root ∨
    ∃ texts, texts ≠ [] ∧ IsSeparated texts cs ∧
      List.Forall₂ (Label.IsWritten toAscii) texts n.labels

lemma isSeparated_singleton : IsSeparated [t] cs ↔ Label.BeginsWith cs t [] := by
  simp [IsSeparated, Label.BeginsWith]

lemma isSeparated_cons (hne : texts ≠ []) :
    IsSeparated (t :: texts) cs ↔ ∃ rest, IsSeparated texts rest ∧ cs = t ++ '.' :: rest := by
  obtain ⟨t', texts, rfl⟩ := List.exists_cons_of_ne_nil hne
  simp only [IsSeparated, List.intercalate_cons_cons, or_and_right, exists_or, exists_eq_left]
  simp

/-! ### Reading names -/

lemma labelsOnto_nil : labelsOnto toAscii done [] = .ok done.reverse := by
  rw [labelsOnto, dif_pos rfl]

lemma labelsOnto_of_read {l : Label} {rest : List Char}
    (hcs : cs ≠ []) (h : Label.read toAscii cs = .ok (l, rest)) :
    labelsOnto toAscii done cs = labelsOnto toAscii (l :: done) rest := by
  rw [labelsOnto, dif_neg hcs]
  split <;> simp_all

lemma labelsOnto_of_read_error {fault : NameFault}
    (hcs : cs ≠ []) (h : Label.read toAscii cs = .error fault) :
    labelsOnto toAscii done cs = .error fault := by
  rw [labelsOnto, dif_neg hcs]
  split <;> simp_all

lemma ne_nil_of_isSeparated (h : IsSeparated texts cs) (hne : texts ≠ [])
    (hlabels : List.Forall₂ (Label.IsWritten toAscii) texts labels) : cs ≠ [] := by
  rintro rfl
  cases hlabels with
  | nil => exact hne rfl
  | @cons t l texts labels hwritten hlabels =>
    by_cases htexts : texts = []
    · subst htexts
      rcases isSeparated_singleton.mp h with ⟨rfl, -⟩ | hpoint
      · exact Label.not_isWritten_nil hwritten
      · simp at hpoint
    · obtain ⟨rest, -, hpoint⟩ := (isSeparated_cons htexts).mp h
      simp at hpoint

/-- Labels are read exactly if the text consists of texts that write them. -/
lemma labelsOnto_eq_ok_iff : labelsOnto toAscii done cs = .ok labels ↔
    (cs = [] ∧ labels = done.reverse) ∨ ∃ texts new, texts ≠ [] ∧ IsSeparated texts cs ∧
      List.Forall₂ (Label.IsWritten toAscii) texts new ∧ labels = done.reverse ++ new := by
  constructor
  · intro h
    fun_induction labelsOnto toAscii done cs with
    | case1 =>
      cases h
      exact .inl ⟨rfl, rfl⟩
    | case2 => cases h
    | case3 done cs _ l rest hread _ ih =>
      obtain ⟨t, hwritten, hbegins⟩ := Label.read_eq_ok_iff_isWritten.mp hread
      refine .inr ?_
      rcases ih h with ⟨rfl, rfl⟩ | ⟨texts, new, hne, hseparated, hlabels, rfl⟩
      · exact ⟨[t], [l], by simp, isSeparated_singleton.mpr hbegins, .cons hwritten .nil, by simp⟩
      · have hrest := ne_nil_of_isSeparated hseparated hne hlabels
        have hcs : cs = t ++ '.' :: rest := hbegins.resolve_left fun h => hrest h.2
        exact ⟨t :: texts, l :: new, by simp, (isSeparated_cons hne).mpr ⟨rest, hseparated, hcs⟩,
          .cons hwritten hlabels, by simp⟩
  · rintro (⟨rfl, rfl⟩ | ⟨texts, new, hne, hseparated, hlabels, rfl⟩)
    · exact labelsOnto_nil
    · induction hlabels generalizing done cs with
      | nil => exact absurd rfl hne
      | @cons t l texts new hwritten hlabels ih =>
        have hcs := ne_nil_of_isSeparated hseparated hne (.cons hwritten hlabels)
        by_cases htexts : texts = []
        · subst htexts
          cases hlabels
          have hread := Label.read_eq_ok_iff_isWritten.mpr
            ⟨t, hwritten, isSeparated_singleton.mp hseparated⟩
          rw [labelsOnto_of_read hcs hread, labelsOnto_nil]
          simp
        · obtain ⟨rest, hrest, hcs'⟩ := (isSeparated_cons htexts).mp hseparated
          have hread := Label.read_eq_ok_iff_isWritten.mpr ⟨t, hwritten, .inr hcs'⟩
          rw [labelsOnto_of_read hcs hread, ih htexts hrest]
          simp

/-- A lone point is the root, since it does not consist of texts that write labels. -/
lemma labelsOnto_point : labelsOnto toAscii done ['.'] = .error .emptyLabel :=
  labelsOnto_of_read_error (by decide) rfl

lemma ofChars_eq_ok_iff : ofChars toAscii cs = .ok n ↔ IsWritten toAscii cs n := by
  obtain ⟨labels⟩ := n
  have hlabels : labelsOnto toAscii [] cs = .ok labels ↔ (cs = [] ∧ labels = []) ∨
      ∃ texts, texts ≠ [] ∧ IsSeparated texts cs ∧
        List.Forall₂ (Label.IsWritten toAscii) texts labels := by
    simp [labelsOnto_eq_ok_iff]
  unfold ofChars IsWritten
  split_ifs with hpoint
  · subst hpoint
    rw [labelsOnto_point] at hlabels
    simp only [reduceCtorEq, false_iff, not_or] at hlabels
    simp [hlabels.2, root, eq_comm]
  · have hmap : (labelsOnto toAscii [] cs).map Name.mk = .ok ⟨labels⟩ ↔
        labelsOnto toAscii [] cs = .ok labels := by
      cases labelsOnto toAscii [] cs <;> simp [Except.map]
    simp [hmap, hlabels, hpoint, root]

lemma parse_eq_ok_iff_isWritten :
    Name.parse s = .ok n ↔ IsWritten Idna.toAscii s.toList n := by
  rw [← ofChars_eq_ok_iff]
  unfold Name.parse
  cases ofChars Idna.toAscii s.toList <;> simp

/-- A text is read as a name exactly if it writes that name, with whatever function finds ASCII
forms, and so with the one for internationalised names. -/
theorem read_iff_written :
    (ofChars toAscii cs = .ok n ↔ IsWritten toAscii cs n) ∧
      (Name.parse s = .ok n ↔ IsWritten Idna.toAscii s.toList n) :=
  ⟨ofChars_eq_ok_iff, parse_eq_ok_iff_isWritten⟩

end Name

end StubResolver
