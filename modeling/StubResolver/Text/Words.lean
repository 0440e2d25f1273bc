import StubResolver.Unicode.WhiteSpace

/-!
# Words and lines

Words are the maximal runs of characters that are not white space. Lines end at a line feed.
-/

namespace StubResolver.Text

open Unicode (isWhiteSpace)

/-- Splits at every character that satisfies a test, which is dropped. There is one piece more
than there are such characters. -/
def splitOn (p : Char → Bool) (cs : List Char) : List (List Char) :=
  cs.foldr (fun c pieces => if p c then [] :: pieces else glue c pieces) [[]]
where
  /-- Puts a character in front of the first piece. -/
  glue (c : Char) : List (List Char) → List (List Char)
    | [] => [[c]]
    | piece :: pieces => (c :: piece) :: pieces

/-- The words of a text, in order. -/
def words (cs : List Char) : List (List Char) :=
  (splitOn isWhiteSpace cs).filter (!·.isEmpty)

/-- The lines of a text, without their line feeds. -/
def lines (cs : List Char) : List (List Char) := splitOn (· == '\n') cs

/-- Drops the characters that satisfy a test from the end. -/
def dropTailWhile (p : Char → Bool) (cs : List Char) : List Char :=
  (cs.reverse.dropWhile p).reverse

/-- Drops white space from both ends. -/
def trim (cs : List Char) : List Char :=
  dropTailWhile isWhiteSpace (cs.dropWhile isWhiteSpace)

/-- Fills a text up with spaces on the right to at least `width` characters. -/
def padRight (width : Nat) (s : String) : String :=
  s ++ String.ofList (List.replicate (width - s.length) ' ')

/-- Fills a text up with spaces on the left to at least `width` characters. -/
def padLeft (width : Nat) (s : String) : String :=
  String.ofList (List.replicate (width - s.length) ' ') ++ s

end StubResolver.Text
