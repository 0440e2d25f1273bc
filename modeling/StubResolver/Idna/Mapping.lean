import StubResolver.Idna.MappingTable

/-!
# The character mapping

Before a label is looked at, its characters are mapped: case is folded, compatibility forms are
replaced, and some invisible characters vanish. The mapping is nontransitional, so deviation
characters stay, and the rules for host names limit ASCII to letters, digits and the hyphen.
-/

namespace StubResolver.Idna

open Unicode

/-! ### What can be wrong -/

/-- What can be wrong with a text that has no ASCII form. -/
inductive Fault where
  /-- What a label encodes cannot be read, or a label cannot be encoded. -/
  | punycode
  /-- A label does not keep to one direction. -/
  | direction
  /-- A label begins with a combining mark. -/
  | leadingMark
  /-- A label holds a character that the mapping does not keep. -/
  | notKept
  /-- What a label encodes is not normalised. -/
  | notNormal
  /-- The rules for host names keep a character out. -/
  | refused
  /-- The rules for host names keep out what takes the place of a character. -/
  | refusedReplacement
  /-- No label holds a character. -/
  | disallowed
  deriving DecidableEq, Repr

namespace Fault

/-- All faults, in the order in which they are named. -/
def all : List Fault :=
  [punycode, direction, leadingMark, notKept, notNormal, refused, refusedReplacement, disallowed]

/-- The name of a fault. -/
def text : Fault → String
  | punycode => "punycode"
  | direction => "check_bidi"
  | leadingMark => "start_combining_mark"
  | notKept => "invalid_mapping"
  | notNormal => "nfc"
  | refused => "disallowed_by_std3_ascii_rules"
  | refusedReplacement => "disallowed_mapped_in_std3"
  | disallowed => "disallowed_character"

/-- What a reader is told about faults, each of which is named once. -/
def listText (faults : List Fault) : String :=
  "Errors \x7b " ++ ", ".intercalate ((all.filter (· ∈ faults)).map text) ++ " \x7d"

end Fault

/-! ### Characters -/

/-- What happens to a character. -/
inductive Mapping where
  /-- The character stays. -/
  | valid
  /-- The character vanishes. -/
  | ignored
  /-- Other characters take the place of the character. -/
  | replaced (replacement : List Char)
  /-- The character would stay, but the rules for host names keep it out. -/
  | refused
  /-- Other characters would take its place, but the rules for host names keep them out. -/
  | refusedReplacement (replacement : List Char)
  /-- No label holds the character. -/
  | disallowed
  deriving DecidableEq, Repr

/-- Soft hyphens, joining controls, variation selectors and the like, which vanish. -/
def isIgnored (c : Char) : Bool :=
  let n := c.toNat
  n == 0xAD || n == 0x34F || (0x180B ≤ n && n ≤ 0x180D) || n == 0x200B || n == 0x2060
    || n == 0x2064 || (0xFE00 ≤ n && n ≤ 0xFE0F) || n == 0xFEFF || (0x1BCA0 ≤ n && n ≤ 0x1BCA3)
    || (0xE0100 ≤ n && n ≤ 0xE01EF)

/-- The sharp s, the final sigma and the two joiners, which a nontransitional mapping keeps. -/
def isDeviation (c : Char) : Bool :=
  let n := c.toNat
  n == 0xDF || n == 0x3C2 || n == 0x200C || n == 0x200D

/-- The equals sign, the less-than sign and the greater-than sign, crossed out. -/
def isNegated (c : Char) : Bool :=
  let n := c.toNat
  n == 0x2260 || n == 0x226E || n == 0x226F

/-- The replacement of a character that has one in a table. -/
def replacement? (t : CodeTable (List Nat)) (c : Char) : Option (List Char) :=
  (t.range? c.toNat).map fun r => r.value.map fun n => Char.ofNat (n + (c.toNat - r.first))

/-- The mapping of an ASCII character. -/
def asciiMapping (c : Char) : Mapping :=
  if c.isLower || c.isDigit || c == '-' || c == '.' then .valid
  else if c.isUpper then .replaced [c.toLower]
  else .refused

/-- The mapping of a character. -/
def mapping (c : Char) : Mapping :=
  if c.toNat < 0x80 then asciiMapping c
  else if isIgnored c then .ignored
  else if isDeviation c || validTable.contains c then .valid
  else match replacement? replacementTable c, replacement? refusedTable c with
    | some cs, _ => .replaced cs
    | none, some cs => .refusedReplacement cs
    | none, none => if isNegated c then .refused else .disallowed

/-! ### Texts -/

/-- Maps a text, and tells what is wrong with its characters. -/
def mapText (cs : List Char) : List Char × List Fault :=
  (cs.flatMap fun c => (mapChar c).1, cs.flatMap fun c => (mapChar c).2)
where
  /-- What takes the place of a character, and what is wrong with the character. -/
  mapChar (c : Char) : List Char × List Fault :=
    match mapping c with
    | .valid => ([c], [])
    | .ignored => ([], [])
    | .replaced cs => (cs, [])
    | .refused => ([c], [.refused])
    | .refusedReplacement cs => (cs, [.refusedReplacement])
    | .disallowed => ([c], [.disallowed])

end StubResolver.Idna
