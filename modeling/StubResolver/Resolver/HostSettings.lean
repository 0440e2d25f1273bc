import StubResolver.Duration
import StubResolver.Name.Parse
import StubResolver.Text.Words

/-!
# Settings of the host

The servers, the search suffixes and the timeout that a host sets for its resolvers, in a text of
lines. The first word of a line says what it sets. Lines that set nothing else, words that cannot
be read, and lines that begin with a semicolon or a number sign, are passed over.
-/

namespace StubResolver

/-- What a host sets. -/
structure HostSettings where
  /-- The servers, in order. -/
  servers : List IpAddress := []
  /-- The suffixes that are tried for names of one label. -/
  search : List Name := []
  /-- The time for each exchange. -/
  timeout : Option Duration := none
  deriving DecidableEq, Repr

namespace HostSettings

/-! ### Words -/

/-- The address that a word writes, less the zone behind a percent sign. -/
def serverOfWord? (word : List Char) : Option IpAddress :=
  IpAddress.ofChars? (word.takeWhile (· ≠ '%'))

/-- The name that a word writes, unless it is the root. -/
def suffixOfWord? (word : List Char) : Option Name :=
  match Name.ofChars Idna.toAscii word with
  | .ok n => if n.isRoot then none else some n
  | .error _ => none

/-- What an option that sets the timeout begins with. -/
def timeoutMark : List Char := "timeout:".toList

/-- The greatest number of seconds that is read. -/
def maxTimeout : Nat := 0xFFFFFFFFFFFFFFFF

/-- The timeout that an option sets, in whole seconds. -/
def timeoutOfWord? (word : List Char) : Option Duration :=
  if timeoutMark.isPrefixOf word then
    (Numeral.ofChars maxTimeout (word.drop timeoutMark.length)).toOption.map fun seconds =>
      { seconds }
  else none

/-! ### Lines -/

/-- What a line sets. -/
inductive Setting where
  /-- One more server. -/
  | server (ip : IpAddress)
  /-- Other search suffixes. -/
  | search (suffixes : List Name)
  /-- Another timeout. -/
  | timeout (time : Duration)
  deriving DecidableEq, Repr

/-- What the words of a line set, in order. Of a line with options, the last timeout that can be
read counts. -/
def settingOfWords? : List (List Char) → Option Setting
  | [] => none
  | key :: words =>
    match String.ofList key with
    | "nameserver" => (words.head?.bind serverOfWord?).map .server
    | "domain" => some (.search (words.head?.bind suffixOfWord?).toList)
    | "search" => some (.search (words.filterMap suffixOfWord?))
    | "options" => (words.filterMap timeoutOfWord?).getLast?.map .timeout
    | _ => none

/-- Whether a line without white space around it says nothing. -/
def isComment : List Char → Bool
  | [] => true
  | c :: _ => c == ';' || c == '#'

/-- What a line sets. -/
def settingOfLine? (line : List Char) : Option Setting :=
  let line := Text.trim line
  if isComment line then none else settingOfWords? (Text.words line)

/-- The settings after one more. -/
def apply (h : HostSettings) : Setting → HostSettings
  | .server ip => { h with servers := h.servers ++ [ip] }
  | .search suffixes => { h with search := suffixes }
  | .timeout time => { h with timeout := some time }

/-! ### Texts -/

/-- The settings in a text. -/
def ofChars (cs : List Char) : HostSettings :=
  ((Text.lines cs).filterMap settingOfLine?).foldl apply {}

/-- The settings in a file, unless it is no text. -/
def ofOctets? (octets : Octets) : Option HostSettings :=
  (Utf8.decode? octets).toOption.map ofChars

end HostSettings

end StubResolver
