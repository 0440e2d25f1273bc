import StubResolver.Name.Parse
import StubResolver.Resource.Basic
import StubResolver.Text.Words
import StubResolver.Unicode.DecimalDigit

/-!
# Resources from text

The fields of data stand between single spaces. The strings of a text record are quoted, with
backslashes in front of characters that lose their meaning, or are words.
-/

namespace StubResolver

/-- Why a text is no data of a type. -/
inductive ResourceTextError where
  /-- The fields are not those of the type. -/
  | fields
  /-- A number is not in range. -/
  | number (fault : Numeral.Fault)
  /-- An IPv4 address is malformed. -/
  | ipv4
  /-- An IPv6 address is malformed. -/
  | ipv6
  /-- A name is malformed. -/
  | name (error : Error)
  deriving Repr

/-- What a reader is told about a text that is no data of a type. -/
def ResourceTextError.message : ResourceTextError → String
  | fields => "string doesn't match expected format"
  | number fault => fault.message
  | ipv4 => "invalid IPv4 address syntax"
  | ipv6 => "invalid IPv6 address syntax"
  | name error => error.message

namespace Resource

open Unicode (isWhiteSpace isDecimalDigit)

/-! ### Fields -/

/-- The fields between spaces. -/
def fields (cs : List Char) : List (List Char) := Text.splitOn (· == ' ') cs

/-- Whether a field may hold a number: it has digits alone, of whatever script. -/
def isNumberField (cs : List Char) : Bool := !cs.isEmpty && cs.all isDecimalDigit

/-- Whether a field may hold a name: it has no white space. -/
def isNameField (cs : List Char) : Bool := !cs.isEmpty && cs.all (!isWhiteSpace ·)

/-- The number in a field, up to a bound. -/
def numberField (max : Nat) (cs : List Char) : Except ResourceTextError Nat :=
  (Numeral.ofChars max cs).mapError .number

/-- The name in a field. -/
def nameField (cs : List Char) : Except ResourceTextError Name :=
  (Name.parse (String.ofList cs)).mapError .name

/-- The greatest time that is read. -/
def maxTime : Nat := 0xFFFFFFFFFFFFFFFF

/-! ### Strings of text -/

/-- The string behind an opening quote, behind the characters that were read before, reversed, and
what follows its closing quote. A backslash gives way to the character behind it, which is no line
feed. -/
def quotedOnto (done : List Char) : List Char → Option (List Char × List Char)
  | [] => none
  | '"' :: rest => some (done.reverse, rest)
  | '\\' :: [] => none
  | '\\' :: c :: rest => if c = '\n' then none else quotedOnto (c :: done) rest
  | c :: rest => quotedOnto (c :: done) rest

/-- A string takes up characters. -/
theorem length_quotedOnto {done cs s rest : List Char} (h : quotedOnto done cs = some (s, rest)) :
    rest.length < cs.length := by
  fun_induction quotedOnto done cs <;> grind

/-- The first string of a text, and what follows it. A quote that is not closed belongs to a
word. -/
def nextString (cs : List Char) : List Char × List Char :=
  match cs with
  | '"' :: rest => (quotedOnto [] rest).getD (word cs)
  | _ => word cs
where
  /-- The word that a text begins with, and what follows it. -/
  word (cs : List Char) : List Char × List Char :=
    (cs.takeWhile (!isWhiteSpace ·), cs.dropWhile (!isWhiteSpace ·))

/-- A word in front takes up characters. -/
theorem length_word {c : Char} {cs : List Char} (h : isWhiteSpace c = false) :
    (nextString.word (c :: cs)).2.length < (c :: cs).length := by
  have := (List.dropWhile_sublist (!isWhiteSpace ·) (l := cs)).length_le
  simp only [nextString.word, List.dropWhile_cons, h, List.length_cons]
  simp only [Bool.not_false, if_true]
  omega

/-- The first string takes up characters. -/
theorem length_nextString {c : Char} {cs : List Char} (h : isWhiteSpace c = false) :
    (nextString (c :: cs)).2.length < (c :: cs).length := by
  have hword : (nextString.word (c :: cs)).2.length < (c :: cs).length := length_word h
  unfold nextString
  split
  case h_1 rest heq =>
    obtain ⟨rfl, rfl⟩ := List.cons.inj heq
    cases hq : quotedOnto [] cs with
    | none => exact hword
    | some r =>
      have : r.2.length < cs.length := length_quotedOnto hq
      simp only [Option.getD_some, List.length_cons]
      omega
  case h_2 => exact hword

/-- The strings of a text, behind those that were read before, reversed. -/
def stringsFrom (done : List (List Char)) (cs : List Char) : List (List Char) :=
  match cs with
  | [] => done.reverse
  | c :: cs =>
    if isWhiteSpace c then stringsFrom done cs
    else stringsFrom ((nextString (c :: cs)).1 :: done) (nextString (c :: cs)).2
termination_by cs.length
decreasing_by
  · exact Nat.lt_succ_self cs.length
  · exact length_nextString (Bool.eq_false_iff.2 ‹_›)

/-! ### Data -/

/-- The exchange that fields write. -/
def parseMx (cs : List Char) : Except ResourceTextError Resource :=
  match fields cs with
  | [preference, exchange] =>
    if isNumberField preference && isNameField exchange then do
      let preference ← numberField 65535 preference
      let exchange ← nameField exchange
      return .mx (.ofNat preference) exchange
    else .error .fields
  | _ => .error .fields

/-- The start of a zone that fields write. The name of the mailbox is read first. -/
def parseSoa (cs : List Char) : Except ResourceTextError Resource :=
  match fields cs with
  | [primary, mailbox, serial, refresh, retry, expire, minimum] =>
    if [primary, mailbox].all isNameField
        && [serial, refresh, retry, expire, minimum].all isNumberField then do
      let mailbox ← nameField mailbox
      let primary ← nameField primary
      let serial ← numberField 4294967295 serial
      let refresh ← numberField maxTime refresh
      let retry ← numberField maxTime retry
      let expire ← numberField maxTime expire
      let minimum ← numberField maxTime minimum
      return .soa ⟨primary, .ofName mailbox, .ofNat serial, { seconds := refresh },
        { seconds := retry }, { seconds := expire }, { seconds := minimum }⟩
    else .error .fields
  | _ => .error .fields

/-- The text record that a text writes, which has at least one string. -/
def parseTxt (cs : List Char) : Except ResourceTextError Resource :=
  match stringsFrom [] cs with
  | [] => .error .fields
  | strings => .ok (.txt (strings.map Utf8.encode))

/-- The data of a type that a text writes. -/
def parse (type : RecordType) (s : String) : Except ResourceTextError Resource :=
  match type with
  | .a =>
    match Ipv4.ofChars? s.toList with
    | some ip => .ok (.a ip)
    | none => .error .ipv4
  | .aaaa =>
    match Ipv6.ofChars? s.toList with
    | some ip => .ok (.aaaa ip)
    | none => .error .ipv6
  | .ns => return .ns (← nameField s.toList)
  | .cname => return .cname (← nameField s.toList)
  | .mx => parseMx s.toList
  | .soa => parseSoa s.toList
  | .txt => parseTxt s.toList

end Resource

end StubResolver
