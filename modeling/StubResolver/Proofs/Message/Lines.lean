import StubResolver.Message.Display
import StubResolver.Proofs.Message.Wire
import StubResolver.Proofs.Name.Visible
import StubResolver.Proofs.Resource.Mailbox
import StubResolver.Proofs.Text.Utf8

/-!
# The lines of a message

The text form of a message has one line for each entry and each heading, whatever octets the names,
the mailboxes and the data without a known type hold. Only the line feeds in strings of text are
written as they are: the text form has as many lines more as there are such line feeds.
-/

namespace StubResolver

/-! ### Line feeds -/

namespace Text

variable {s t : String}

/-- The number of line feeds in a text. -/
def lineFeeds (s : String) : Nat := s.toList.count '\n'

/-- A text with a line feed at its end. -/
def EndsLine (s : String) : Prop := s.toList.getLast? = some '\n'

/-- A text whose only line feed is its last character. -/
structure IsLine (s : String) : Prop where
  lineFeeds_eq : lineFeeds s = 1
  endsLine : EndsLine s

@[simp] lemma lineFeeds_empty : lineFeeds "" = 0 := rfl

@[simp] lemma lineFeeds_space : lineFeeds " " = 0 := by decide

@[simp] lemma lineFeeds_newline : lineFeeds "\n" = 1 := by decide

@[simp] lemma lineFeeds_append : lineFeeds (s ++ t) = lineFeeds s + lineFeeds t := by
  simp [lineFeeds]

lemma lineFeeds_of_isVisible (h : ∀ c ∈ s.toList, IsVisible c) : lineFeeds s = 0 := by
  rw [lineFeeds, List.count_eq_zero]
  exact fun hmem => absurd (h _ hmem) (by decide)

lemma lineFeeds_ofList {cs : List Char} (h : ∀ c ∈ cs, IsVisible c) :
    lineFeeds (String.ofList cs) = 0 :=
  lineFeeds_of_isVisible fun c hc => h c (by simpa using hc)

@[simp] lemma lineFeeds_repr (n : Nat) : lineFeeds n.repr = 0 :=
  lineFeeds_of_isVisible fun _ => isVisible_of_mem_toString

@[simp] lemma lineFeeds_padRight {width : Nat} : lineFeeds (padRight width s) = lineFeeds s := by
  simp [padRight, lineFeeds, List.count_replicate]

@[simp] lemma lineFeeds_padLeft {width : Nat} : lineFeeds (padLeft width s) = lineFeeds s := by
  simp [padLeft, lineFeeds, List.count_replicate]

lemma lineFeeds_join (texts : List String) :
    lineFeeds (String.join texts) = (texts.map lineFeeds).sum := by
  rw [lineFeeds, String.toList_join, List.count_flatMap]
  rfl

/-- What stands between texts adds no line feed. -/
lemma lineFeeds_intercalate (hs : lineFeeds s = 0) (texts : List String) :
    lineFeeds (s.intercalate texts) = (texts.map lineFeeds).sum := by
  match texts with
  | [] => rfl
  | [t] => simp
  | t :: u :: texts =>
    rw [String.intercalate_cons_cons, lineFeeds_append, lineFeeds_append, hs,
      lineFeeds_intercalate hs (u :: texts)]
    simp

lemma lineFeeds_intercalate_eq_zero {texts : List String} (hs : lineFeeds s = 0)
    (h : ∀ t ∈ texts, lineFeeds t = 0) : lineFeeds (s.intercalate texts) = 0 := by
  rw [lineFeeds_intercalate hs]
  exact List.sum_eq_zero_iff_forall_eq_nat.mpr (List.forall_mem_map.mpr h)

lemma endsLine_append (h : EndsLine t) : EndsLine (s ++ t) := by
  rw [EndsLine] at h
  simp [EndsLine, h]

lemma EndsLine.append (hs : EndsLine s) (ht : t = "" ∨ EndsLine t) : EndsLine (s ++ t) := by
  rcases ht with rfl | ht
  · rwa [String.append_empty]
  · exact endsLine_append ht

lemma isLine_append_newline : IsLine (s ++ "\n") ↔ lineFeeds s = 0 := by
  have hends : EndsLine (s ++ "\n") := endsLine_append rfl
  constructor
  · rintro ⟨h, -⟩
    simpa using h
  · exact fun h => ⟨by simp [h], hends⟩

end Text

open Text

/-! ### Codes and names -/

@[simp] lemma RecordType.lineFeeds_text (t : RecordType) : lineFeeds t.text = 0 := by
  cases t <;> rfl

@[simp] lemma RecordClass.lineFeeds_text (c : RecordClass) : lineFeeds c.text = 0 := by
  cases c <;> rfl

@[simp] lemma Opcode.lineFeeds_text (c : Opcode) : lineFeeds c.text = 0 := by
  cases c <;> rfl

@[simp] lemma ResponseCode.lineFeeds_text (c : ResponseCode) : lineFeeds c.text = 0 := by
  cases c <;> rfl

@[simp] lemma Name.lineFeeds_text (n : Name) : lineFeeds n.text = 0 :=
  lineFeeds_ofList fun _ => isVisible_of_mem_chars

/-! ### Data -/

@[simp] lemma Ipv4.lineFeeds_text (ip : Ipv4) : lineFeeds ip.text = 0 :=
  lineFeeds_intercalate_eq_zero rfl (by simp)

namespace Ipv6

lemma lineFeeds_groupsText (groups : List UInt16) : lineFeeds (groupsText groups) = 0 := by
  refine lineFeeds_intercalate_eq_zero rfl (List.forall_mem_map.mpr fun group _ => ?_)
  exact lineFeeds_ofList fun _ => isVisible_of_mem_toDigits (by decide) (by decide)

@[simp] lemma lineFeeds_text (ip : Ipv6) : lineFeeds ip.text = 0 := by
  have hmapped : lineFeeds "::ffff:" = 0 := by decide
  have hzeros : lineFeeds "::" = 0 := by decide
  unfold text
  split
  · simp [hmapped]
  · dsimp only
    split_ifs <;> simp [hzeros, lineFeeds_groupsText]

end Ipv6

namespace Resource

/-- The line feeds in data: those in strings of text. -/
def lineFeeds : Resource → Nat
  | txt strings => (strings.map (List.count 0x0A)).sum
  | _ => 0

lemma lineFeeds_eq_zero_iff {r : Resource} :
    r.lineFeeds = 0 ↔ ∀ strings, r = txt strings → ∀ s ∈ strings, (0x0A : UInt8) ∉ s := by
  cases r with
  | txt strings =>
    simp [lineFeeds, List.sum_eq_zero_iff_forall_eq_nat, List.count_eq_zero]
  | _ => simp [lineFeeds]

lemma lineFeeds_authorityText (s : Authority) : Text.lineFeeds (authorityText s) = 0 := by
  have hmailbox : Text.lineFeeds (String.ofList s.mailbox.nameChars) = 0 := by
    rw [Mailbox.nameChars_eq_chars]
    exact lineFeeds_ofList fun _ => Name.isVisible_of_mem_chars
  exact lineFeeds_intercalate_eq_zero rfl (by simp [hmailbox])

/-- The quotes around a string and the backslashes in it are no line feeds. -/
lemma count_stringChars (cs : List Char) : (stringChars cs).count '\n' = cs.count '\n' := by
  have hquoted : (cs.flatMap quotedChar).count '\n' = cs.count '\n' := by
    induction cs with
    | nil => rfl
    | cons c cs ih =>
      have hchar : (quotedChar c).count '\n' = [c].count '\n' := by
        unfold quotedChar
        split_ifs <;> simp
      rw [List.flatMap_cons, List.count_append, hchar, ih, ← List.count_append,
        List.singleton_append]
  unfold stringChars
  split_ifs
  · simpa using hquoted
  · rfl

lemma lineFeeds_stringsText (strings : List Octets) :
    Text.lineFeeds (stringsText strings) = (strings.map (List.count 0x0A)).sum := by
  rw [stringsText, lineFeeds_intercalate rfl, List.map_map]
  congr 1
  refine List.map_congr_left fun s _ => ?_
  rw [Function.comp_apply, Text.lineFeeds, String.toList_ofList, count_stringChars]
  exact Utf8.count_decodeLossy (by decide) s

lemma lineFeeds_lower (data : Octets) : Text.lineFeeds (Hex.lower data) = 0 := by
  refine lineFeeds_ofList fun c hc => ?_
  obtain ⟨b, -, hc⟩ := List.mem_flatMap.mp hc
  exact isVisible_of_mem_lowerOctet hc

/-- The text form of data has the line feeds of the data. -/
lemma lineFeeds_text (r : Resource) : Text.lineFeeds r.text = r.lineFeeds := by
  cases r with
  | a ip => exact ip.lineFeeds_text
  | aaaa ip => exact ip.lineFeeds_text
  | ns n => exact n.lineFeeds_text
  | cname n => exact n.lineFeeds_text
  | mx preference n => simp [text, lineFeeds]
  | soa s => exact lineFeeds_authorityText s
  | txt strings => exact lineFeeds_stringsText strings
  | unknown code data =>
    have hmark : Text.lineFeeds "\\# " = 0 := by decide
    simp only [text, lineFeeds, lineFeeds_append, Nat.toString_eq_repr, lineFeeds_repr, hmark]
    split_ifs <;> simp [lineFeeds_lower]

lemma lineFeeds_typeText (r : Resource) : Text.lineFeeds r.typeText = 0 := by
  have htype : Text.lineFeeds "TYPE" = 0 := by decide
  unfold typeText
  split <;> simp [htype]

end Resource

/-! ### Entries -/

/-- The text form of a question is a line, whatever name it asks for. -/
lemma Question.isLine_text (q : Question) : IsLine q.text := by
  have hmark : lineFeeds "; " = 0 := by decide
  exact isLine_append_newline.mpr (by simp [hmark])

namespace Record

lemma lineFeeds_text (r : Record) : Text.lineFeeds r.text = 1 + r.resource.lineFeeds := by
  simp [text, Resource.lineFeeds_text, Resource.lineFeeds_typeText, Nat.add_comm]

/-- The text form of a record is a line exactly if there is no line feed in its data. -/
lemma isLine_text_iff (r : Record) : IsLine r.text ↔ r.resource.lineFeeds = 0 := by
  have hends : EndsLine r.text := endsLine_append rfl
  constructor
  · rintro ⟨h, -⟩
    rw [lineFeeds_text] at h
    omega
  · exact fun h => ⟨by rw [lineFeeds_text, h], hends⟩

end Record

/-! ### Messages -/

namespace Message

variable {octets : Octets} {m : Message}

/-- The lines of a section: its heading, its records and an empty line; none if it has no
records. -/
def sectionLines (records : List Record) : Nat :=
  if records.isEmpty then 0 else records.length + 2

/-- The lines that a message calls for: two for the header and an empty line, a heading, the
questions and an empty line, and the lines of the sections. -/
def lineCount (m : Message) : Nat :=
  3 + (m.questions.length + 2) + sectionLines m.answers + sectionLines m.authorities
    + sectionLines m.additionals

/-- The line feeds in the data of records. -/
def innerLineFeeds (records : List Record) : Nat := (records.map (·.resource.lineFeeds)).sum

lemma lineFeeds_flagsText (h : Header) : lineFeeds h.flagsText = 0 := by
  rw [Header.flagsText, lineFeeds_join, List.sum_eq_zero_iff_forall_eq_nat]
  have hnames : ∀ name ∈ [" qr", " aa", " tc", " rd", " ra", " ad", " cd"], lineFeeds name = 0 := by
    decide
  simp only [List.forall_mem_cons] at hnames
  have hflag (set : Bool) {name : String} (hname : lineFeeds name = 0) :
      lineFeeds (if set then name else "") = 0 := by
    split_ifs
    · exact hname
    · rfl
  simp [hflag, hnames]

lemma lineFeeds_headerText (m : Message) : lineFeeds m.headerText = 3 := by
  -- The equation of `headerText` is not used: it takes long to generate for so many texts.
  delta headerText
  simp only [lineFeeds_append, lineFeeds_flagsText, Nat.toString_eq_repr, lineFeeds_repr,
    Opcode.lineFeeds_text, ResponseCode.lineFeeds_text]
  decide +kernel

lemma lineFeeds_sectionText {title : String} (htitle : lineFeeds title = 0)
    (records : List Record) :
    lineFeeds (sectionText title records) = sectionLines records + innerLineFeeds records := by
  have hmark : lineFeeds ";; " = 0 := by decide
  have hheading : lineFeeds " SECTION:\n" = 1 := by decide
  have hrecords : ((records.map Record.text).map lineFeeds).sum
      = records.length + innerLineFeeds records := by
    unfold innerLineFeeds
    induction records with
    | nil => rfl
    | cons r records ih =>
      simp only [List.map_cons, List.sum_cons, List.length_cons, ih, Record.lineFeeds_text]
      omega
  unfold sectionText sectionLines
  split_ifs with hempty
  · simp [List.isEmpty_iff.mp hempty, innerLineFeeds]
  · simp only [lineFeeds_append, lineFeeds_join, htitle, hmark, hheading, lineFeeds_newline,
      hrecords]
    omega

lemma sectionText_eq_empty_or_endsLine (title : String) (records : List Record) :
    sectionText title records = "" ∨ EndsLine (sectionText title records) := by
  unfold sectionText
  split_ifs
  · exact .inl rfl
  · exact .inr (endsLine_append rfl)

/-- The text form of a message has a line for everything that calls for one, and the line feeds in
the data. -/
lemma lineFeeds_text (hm : m.provenance = none) :
    lineFeeds m.text = m.lineCount + innerLineFeeds m.records := by
  have hheading : lineFeeds ";; QUESTION SECTION:\n" = 1 := by decide
  have hquestions : ((m.questions.map Question.text).map lineFeeds).sum = m.questions.length := by
    rw [List.map_map, List.map_congr_left fun q _ => q.isLine_text.lineFeeds_eq]
    simp
  have hsections : lineFeeds (sectionText "ANSWER" m.answers)
        + lineFeeds (sectionText "AUTHORITY" m.authorities)
        + lineFeeds (sectionText "ADDITIONAL" m.additionals)
      = sectionLines m.answers + sectionLines m.authorities + sectionLines m.additionals
        + innerLineFeeds m.records := by
    rw [lineFeeds_sectionText rfl, lineFeeds_sectionText rfl, lineFeeds_sectionText rfl]
    simp only [innerLineFeeds, records, List.map_append, List.sum_append]
    omega
  simp only [text, hm, lineFeeds_append, lineFeeds_headerText, lineFeeds_join, hheading,
    lineFeeds_newline, lineFeeds_empty, hquestions, lineCount]
  omega

lemma endsLine_text (hm : m.provenance = none) : EndsLine m.text := by
  rw [text, hm]
  refine .append (.append (.append (.append ?_ ?_) ?_) ?_) (.inl rfl)
  · exact endsLine_append rfl
  all_goals exact sectionText_eq_empty_or_endsLine _ _

/-- What a message shows: a line for each question, a line for each record unless it has a string
of text with a line feed in it, and a line more for each such line feed. -/
structure IsLinewise (m : Message) : Prop where
  question : ∀ q ∈ m.questions, IsLine q.text
  record_iff : ∀ r ∈ m.records, IsLine r.text ↔
    ∀ strings, r.resource = .txt strings → ∀ s ∈ strings, (0x0A : UInt8) ∉ s
  endsLine : EndsLine m.text
  lineFeeds_eq : lineFeeds m.text = m.lineCount + innerLineFeeds m.records
  lineFeeds_eq_iff : lineFeeds m.text = m.lineCount ↔ ∀ r ∈ m.records, IsLine r.text

/-- A message that is read shows its entries as lines, whatever octets it is read from, as long as
no string of text has a line feed in it. -/
theorem isLinewise_of_decode (h : decode octets = .ok m) : m.IsLinewise := by
  have hm := (isRead_of_decode h).provenance_eq
  have hcount := lineFeeds_text hm
  refine ⟨fun q _ => q.isLine_text, fun r _ => ?_, endsLine_text hm, hcount, ?_⟩
  · rw [Record.isLine_text_iff, Resource.lineFeeds_eq_zero_iff]
  · rw [hcount, Nat.add_eq_left, innerLineFeeds, List.sum_eq_zero_iff_forall_eq_nat,
      List.forall_mem_map]
    exact forall₂_congr fun r _ => r.isLine_text_iff.symm

/-- A response with line feeds in its names, in a mailbox and in data that are not decoded. -/
def hostile : Message :=
  let name : Name := ⟨[.text [10]]⟩
  let time : Duration := { seconds := 10 }
  { header := { direction := .response }
    questions := [{ name }]
    answers :=
      [{ name, resource := .soa ⟨name, ⟨"a\n", name⟩, 10, time, time, time, time⟩ },
        { name, resource := .txt [[0x61, 0x0D]] }]
    additionals := [{ name, resource := .unknown 10 [10, 10] }] }

/-- The octets of this response. -/
def hostileOctets : Octets :=
  [0, 0, 0x80, 0, 0, 1, 0, 2, 0, 0, 0, 1, 1, 10, 0, 0, 1, 0, 1]
    ++ [1, 10, 0, 0, 6, 0, 1, 0, 0, 0, 0, 0, 29, 1, 10, 0, 2, 0x61, 10, 1, 10, 0]
    ++ [0, 0, 0, 10, 0, 0, 0, 10, 0, 0, 0, 10, 0, 0, 0, 10, 0, 0, 0, 10]
    ++ [1, 10, 0, 0, 16, 0, 1, 0, 0, 0, 0, 0, 3, 2, 0x61, 0x0D]
    ++ [1, 10, 0, 0, 10, 0, 1, 0, 0, 0, 0, 0, 2, 10, 10]

theorem isLinewise_of_decode_hostile :
    decode hostileOctets = .ok hostile ∧ hostile.IsLinewise ∧ lineFeeds hostile.text = 13 := by
  have hvalid : hostile.IsValid := ⟨by decide, by decide⟩
  have hdecode : decode hostileOctets = .ok hostile := decode_of_encode hvalid rfl
  have hlines := isLinewise_of_decode hdecode
  exact ⟨hdecode, hlines, hlines.lineFeeds_eq⟩

/-- A response with a string of two letters and a line feed between them. -/
def torn : Message :=
  { header := { direction := .response }, answers := [{ resource := .txt [[0x61, 10, 0x62]] }] }

/-- The octets of this response. -/
def tornOctets : Octets :=
  [0, 0, 0x80, 0, 0, 0, 0, 1, 0, 0, 0, 0]
    ++ [0, 0, 16, 0, 1, 0, 0, 0, 0, 0, 4, 3, 0x61, 10, 0x62]

/-- A string with a line feed adds a line to the text form, and its record is not one line. -/
theorem not_isLine_of_torn : decode tornOctets = .ok torn
    ∧ (∃ r ∈ torn.records, ¬ IsLine r.text ∧ lineFeeds r.text = 2)
    ∧ lineFeeds torn.text = torn.lineCount + 1 := by
  have hvalid : torn.IsValid := ⟨by decide, by decide⟩
  have hdecode : decode tornOctets = .ok torn := decode_of_encode hvalid rfl
  let r : Record := { resource := .txt [[0x61, 10, 0x62]] }
  have hlineFeeds : lineFeeds r.text = 2 := r.lineFeeds_text
  have hline : ¬ IsLine r.text := fun h =>
    absurd (h.lineFeeds_eq.symm.trans hlineFeeds) (by decide)
  exact ⟨hdecode, ⟨r, List.mem_singleton_self r, hline, hlineFeeds⟩, lineFeeds_text rfl⟩

end Message

end StubResolver
