import Mathlib.Tactic.Common
import StubResolver.Proofs.Text.Words
import StubResolver.Resolver.HostSettings

/-!
# Settings, line by line

The settings of a text hang on what each of its lines sets, and what a line sets hangs on no other
line. So the settings of two texts, one on the lines behind the other, follow from those of each:
servers are added, the search suffixes of the second replace those of the first if one of its lines
sets them, and its timeout replaces that of the first if it has one.
-/

namespace StubResolver.HostSettings

variable {a b cs line word : List Char} {n : Name} {suffixes : List Name}

/-! ### One setting after the other -/

/-- The server that a setting adds. -/
def Setting.server? : Setting → Option IpAddress
  | server ip => some ip
  | _ => none

/-- The search suffixes that a setting puts in the place of others. -/
def Setting.search? : Setting → Option (List Name)
  | search suffixes => some suffixes
  | _ => none

/-- The timeout that a setting puts in the place of another. -/
def Setting.timeout? : Setting → Option Duration
  | timeout time => some time
  | _ => none

lemma apply_eq (h : HostSettings) (set : Setting) : h.apply set =
    { servers := h.servers ++ set.server?.toList
      search := set.search?.getD h.search
      timeout := set.timeout?.or h.timeout } := by
  cases set <;> simp [apply, Setting.server?, Setting.search?, Setting.timeout?]

/-- All servers are added in order, and of the search suffixes and the timeouts the last count. -/
lemma foldl_apply (h : HostSettings) (sets : List Setting) : sets.foldl apply h =
    { servers := h.servers ++ sets.filterMap Setting.server?
      search := (sets.filterMap Setting.search?).getLast?.getD h.search
      timeout := (sets.filterMap Setting.timeout?).getLast?.or h.timeout } := by
  induction sets generalizing h with
  | nil => simp
  | cons set sets ih =>
    rw [List.foldl_cons, ih, apply_eq]
    cases set <;>
      simp [List.filterMap_cons, List.getLast?_cons, Setting.server?, Setting.search?,
        Setting.timeout?]

/-- What the lines of a text set, in order. -/
def settings (cs : List Char) : List Setting := (Text.lines cs).filterMap settingOfLine?

lemma ofChars_eq (cs : List Char) : ofChars cs =
    { servers := (settings cs).filterMap Setting.server?
      search := ((settings cs).filterMap Setting.search?).getLast?.getD []
      timeout := ((settings cs).filterMap Setting.timeout?).getLast? } := by
  rw [ofChars, foldl_apply, ← settings, Option.or_none, List.nil_append]

/-! ### Lines -/

/-- The first word of a line, which says what the line sets. -/
def keyword? (line : List Char) : Option String := (Text.words line).head?.map String.ofList

/-- The words that say what a line sets. -/
def keywords : List String := ["nameserver", "domain", "search", "options"]

/-- A line that sets search suffixes: it says something, and its first word is one of two. -/
def SetsSearch (line : List Char) : Prop :=
  isComment (Text.trim line) = false
    ∧ (keyword? line = some "search" ∨ keyword? line = some "domain")

instance : DecidablePred SetsSearch := fun line => by unfold SetsSearch; infer_instance

lemma settingOfLine?_eq (line : List Char) : settingOfLine? line =
    if isComment (Text.trim line) then none else settingOfWords? (Text.words line) := by
  rw [settingOfLine?, Text.words_trim]

lemma settingOfWords?_cons (key : List Char) (words : List (List Char)) :
    settingOfWords? (key :: words) =
      if String.ofList key = "nameserver" then (words.head?.bind serverOfWord?).map .server
      else if String.ofList key = "domain" then
        some (.search (words.head?.bind suffixOfWord?).toList)
      else if String.ofList key = "search" then some (.search (words.filterMap suffixOfWord?))
      else if String.ofList key = "options" then
        (words.filterMap timeoutOfWord?).getLast?.map .timeout
      else none := by
  rw [settingOfWords?]
  split <;> simp_all

/-- A line whose first word is none of the keywords sets nothing. -/
lemma settingOfLine?_of_keyword (h : ∀ key ∈ keywords, keyword? line ≠ some key) :
    settingOfLine? line = none := by
  rw [settingOfLine?_eq]
  rw [keyword?] at h
  cases hwords : Text.words line with
  | nil => exact ite_self none
  | cons key words =>
    have hkey : ∀ k ∈ keywords, String.ofList key ≠ k := by simpa [hwords] using h
    simp only [keywords, List.forall_mem_cons] at hkey
    obtain ⟨hserver, hdomain, hsearch, hoptions, -⟩ := hkey
    rw [settingOfWords?_cons, if_neg hserver, if_neg hdomain, if_neg hsearch, if_neg hoptions,
      ite_self]

lemma isRoot_of_suffixOfWord? (h : suffixOfWord? word = some n) : n.isRoot = false := by
  unfold suffixOfWord? at h
  split at h
  · split_ifs at h with hroot
    · obtain rfl := Option.some.inj h
      simpa using hroot
  · cases h

/-- Search suffixes are set only by a line whose first word says so, and the root is none of
them. -/
lemma of_search (h : settingOfLine? line = some (.search suffixes)) :
    SetsSearch line ∧ ∀ n ∈ suffixes, n.isRoot = false := by
  rw [settingOfLine?_eq] at h
  split_ifs at h with hcomment
  rw [SetsSearch, keyword?]
  cases hwords : Text.words line with
  | nil =>
    rw [hwords] at h
    cases h
  | cons key words =>
    rw [hwords, settingOfWords?_cons] at h
    -- One case for each keyword, of which two set search suffixes.
    split_ifs at h with hserver hdomain hsearch hoptions
    · obtain ⟨ip, -, hset⟩ := Option.map_eq_some_iff.mp h
      cases hset
    · obtain rfl : (words.head?.bind suffixOfWord?).toList = suffixes := by simpa using h
      refine ⟨⟨by simpa using hcomment, .inr (by simp [hdomain])⟩, fun n hn => ?_⟩
      obtain ⟨word, -, hword⟩ := Option.bind_eq_some_iff.mp (Option.mem_toList.mp hn)
      exact isRoot_of_suffixOfWord? hword
    · obtain rfl : words.filterMap suffixOfWord? = suffixes := by simpa using h
      refine ⟨⟨by simpa using hcomment, .inl (by simp [hsearch])⟩, fun n hn => ?_⟩
      obtain ⟨word, -, hword⟩ := List.mem_filterMap.mp hn
      exact isRoot_of_suffixOfWord? hword
    · obtain ⟨time, -, hset⟩ := Option.map_eq_some_iff.mp h
      cases hset

lemma exists_search (h : SetsSearch line) :
    ∃ suffixes, settingOfLine? line = some (.search suffixes) := by
  obtain ⟨hcomment, hkey⟩ := h
  rw [settingOfLine?_eq, hcomment]
  rw [keyword?] at hkey
  cases hwords : Text.words line with
  | nil => simp [hwords] at hkey
  | cons key words =>
    have hkey : String.ofList key = "search" ∨ String.ofList key = "domain" := by
      simpa [hwords] using hkey
    rw [settingOfWords?_cons]
    rcases hkey with hkey | hkey <;> simp [hkey]

/-! ### Texts -/

lemma settings_append (a b : List Char) : settings (a ++ '\n' :: b) = settings a ++ settings b := by
  rw [settings, Text.lines_append_cons, List.filterMap_append, ← settings, ← settings]

lemma settings_of_line (h : '\n' ∉ line) : settings line = (settingOfLine? line).toList := by
  rw [settings, Text.lines_of_notMem h]
  cases hset : settingOfLine? line <;> simp [hset]

lemma settings_intercalate (texts : List (List Char)) :
    settings (['\n'].intercalate texts) = texts.flatMap settings := by
  induction texts with
  | nil => rfl
  | cons text texts ih =>
    cases texts with
    | nil => simp
    | cons next texts =>
      rw [List.intercalate_cons_cons, List.append_assoc, List.singleton_append, settings_append, ih,
        ← List.flatMap_cons]

/-- A carriage return at the end of a text does not count. -/
lemma settings_append_return (cs : List Char) : settings (cs ++ ['\r']) = settings cs := by
  have hline (line : List Char) (h : '\n' ∉ line) :
      settings (line ++ ['\r']) = settings line := by
    have hreturn : '\n' ∉ line ++ ['\r'] := by simp [h]
    have hspace : Unicode.isWhiteSpace '\r' = true := by decide
    rw [settings_of_line hreturn, settings_of_line h, settingOfLine?, settingOfLine?,
      Text.trim_append_of_isWhiteSpace hspace]
  by_cases h : '\n' ∈ cs
  · -- Only the last line counts, so the text is split at its last line feed.
    obtain ⟨last, front, hcs, hlast⟩ := List.eq_append_cons_of_mem (List.mem_reverse.mpr h)
    obtain rfl : cs = front.reverse ++ '\n' :: last.reverse := by
      simpa using congrArg List.reverse hcs
    rw [List.append_assoc, List.cons_append, settings_append, settings_append,
      hline last.reverse (by simpa using hlast)]
  · exact hline cs h

lemma ofChars_of_settings (h : settings a = settings b) : ofChars a = ofChars b := by
  rw [ofChars_eq, ofChars_eq, h]

lemma mem_searches_iff : suffixes ∈ (settings cs).filterMap Setting.search?
    ↔ ∃ line ∈ Text.lines cs, settingOfLine? line = some (.search suffixes) := by
  have hsearch (set : Setting) : set.search? = some suffixes ↔ set = .search suffixes := by
    cases set <;> simp [Setting.search?]
  simp [settings, hsearch]

lemma isRoot_of_mem_search (h : n ∈ (ofChars cs).search) : n.isRoot = false := by
  rw [ofChars_eq] at h
  cases hlast : ((settings cs).filterMap Setting.search?).getLast? with
  | none => simp [hlast] at h
  | some suffixes =>
    obtain ⟨line, -, hline⟩ := mem_searches_iff.mp (List.mem_of_getLast? hlast)
    exact (of_search hline).2 n (by simpa [hlast] using h)

lemma getLast?_searches_eq_none_iff (cs : List Char) :
    ((settings cs).filterMap Setting.search?).getLast? = none
      ↔ ¬∃ line ∈ Text.lines cs, SetsSearch line := by
  rw [List.getLast?_eq_none_iff, List.eq_nil_iff_forall_not_mem]
  constructor
  · rintro h ⟨line, hline, hsets⟩
    obtain ⟨suffixes, hset⟩ := exists_search hsets
    exact h suffixes (mem_searches_iff.mpr ⟨line, hline, hset⟩)
  · intro h suffixes hmem
    obtain ⟨line, hline, hset⟩ := mem_searches_iff.mp hmem
    exact h ⟨line, hline, (of_search hset).1⟩

/-- The settings of a text and of one on the lines behind it. -/
lemma ofChars_append (a b : List Char) : ofChars (a ++ '\n' :: b) =
    { servers := (ofChars a).servers ++ (ofChars b).servers
      search := if ∃ line ∈ Text.lines b, SetsSearch line then (ofChars b).search
        else (ofChars a).search
      timeout := (ofChars b).timeout.or (ofChars a).timeout } := by
  have hsearch := getLast?_searches_eq_none_iff b
  simp only [ofChars_eq, settings_append, List.filterMap_append, List.getLast?_append,
    Option.getD_or]
  split_ifs with hb
  · obtain ⟨suffixes, hlast⟩ := Option.ne_none_iff_exists'.mp (mt hsearch.mp (not_not_intro hb))
    simp only [hlast, Option.getD_some]
  · simp only [hsearch.mpr hb, Option.getD_none]

/-- Settings are read line by line. A text on the lines behind another adds its servers, puts its
search suffixes in the place of the others if one of its lines sets any, and its timeout if it has
one. The root is never a search suffix. A line whose first word is none of the keywords changes
nothing, wherever it stands, and neither does a carriage return at the end of a line. -/
theorem ofChars_lineByLine :
    (∀ a b, ofChars (a ++ '\n' :: b) =
      { servers := (ofChars a).servers ++ (ofChars b).servers
        search := if ∃ line ∈ Text.lines b, SetsSearch line then (ofChars b).search
          else (ofChars a).search
        timeout := (ofChars b).timeout.or (ofChars a).timeout })
      ∧ (∀ cs, ∀ n ∈ (ofChars cs).search, n.isRoot = false)
      ∧ (∀ line, '\n' ∉ line → (∀ key ∈ keywords, keyword? line ≠ some key) →
        ∀ front back : List (List Char), ofChars (['\n'].intercalate (front ++ line :: back))
          = ofChars (['\n'].intercalate (front ++ back)))
      ∧ ∀ a b, ofChars (a ++ '\r' :: '\n' :: b) = ofChars (a ++ '\n' :: b) := by
  refine ⟨ofChars_append, fun _ _ => isRoot_of_mem_search, ?_, ?_⟩
  · intro line hline hkey front back
    apply ofChars_of_settings
    have hnone : settings line = [] := by
      rw [settings_of_line hline, settingOfLine?_of_keyword hkey, Option.toList_none]
    rw [settings_intercalate, settings_intercalate, List.flatMap_append, List.flatMap_cons, hnone,
      List.nil_append, List.flatMap_append]
  · intro a b
    apply ofChars_of_settings
    have hreturn : a ++ '\r' :: '\n' :: b = a ++ ['\r'] ++ '\n' :: b := by simp
    rw [hreturn, settings_append, settings_append_return, settings_append]

/-- Settings of all kinds. -/
def leased : List Char := "nameserver 192.0.2.53\nsearch b\noptions timeout:3".toList

/-- A server with a zone, and the root as the search suffix. -/
def bare : List Char := "nameserver ::1%eth0\ndomain .".toList

/-- The second text takes the search suffixes away, as it sets none but the root, and leaves the
timeout. A comment between the two texts changes nothing. -/
theorem ofChars_lineByLine_leased :
    let comment := "# domain c".toList
    let h : HostSettings :=
      { servers := [.v4 (.ofOctets 192 0 2 53),
          .v6 ⟨#v[0, 0, 0, 0, 0, 0, 0, 0, 0, 0, 0, 0, 0, 0, 0, 1]⟩]
        timeout := some { seconds := 3 } }
    (∃ line ∈ Text.lines bare, SetsSearch line) ∧ (ofChars leased).search = [⟨[.text [0x62]]⟩]
      ∧ ofChars (leased ++ '\n' :: bare) = h
      ∧ '\n' ∉ comment ∧ (∀ key ∈ keywords, keyword? comment ≠ some key)
      ∧ ofChars (['\n'].intercalate [leased, comment, bare]) = h := by
  intro comment h
  obtain ⟨happend, -, hinsert, -⟩ := ofChars_lineByLine
  have hleased : ofChars leased =
      ⟨[.v4 (.ofOctets 192 0 2 53)], [⟨[.text [0x62]]⟩], some { seconds := 3 }⟩ := by
    decide +kernel
  have hbare : ofChars bare =
      ⟨[.v6 ⟨#v[0, 0, 0, 0, 0, 0, 0, 0, 0, 0, 0, 0, 0, 0, 0, 1]⟩], [], none⟩ := rfl
  have hsets : ∃ line ∈ Text.lines bare, SetsSearch line := by decide
  have hjoined : ofChars (leased ++ '\n' :: bare) = h := by
    rw [happend, if_pos hsets, hleased, hbare]
    rfl
  have hline : '\n' ∉ comment := by decide
  have hkey : ∀ key ∈ keywords, keyword? comment ≠ some key := by decide
  have hcomment : ofChars (['\n'].intercalate [leased, comment, bare])
      = ofChars (leased ++ '\n' :: bare) := by
    simpa using hinsert comment hline hkey [leased] [bare]
  exact ⟨hsets, congrArg search hleased, hjoined, hline, hkey, hcomment.trans hjoined⟩

end StubResolver.HostSettings
