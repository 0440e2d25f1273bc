import StubResolver.Unicode.CombiningClass
import StubResolver.Unicode.Composite
import StubResolver.Unicode.Decomposition

/-!
# Normalization form C

A text is decomposed, its combining marks are put into canonical order, and what composes is
composed again.
-/

namespace StubResolver.Unicode

/-! ### Hangul syllables -/

namespace Hangul

/-- The first syllable. -/
def syllableBase : Nat := 0xAC00

/-- The first leading consonant. -/
def leadingBase : Nat := 0x1100

/-- The first vowel. -/
def vowelBase : Nat := 0x1161

/-- One below the first trailing consonant. -/
def trailingBase : Nat := 0x11A7

/-- The number of leading consonants. -/
def leadingCount : Nat := 19

/-- The number of vowels. -/
def vowelCount : Nat := 21

/-- The number of trailing consonants, the absence of one counted. -/
def trailingCount : Nat := 28

/-- The consonants and the vowel of a syllable. -/
def decompose? (c : Char) : Option (List Char) :=
  let index := c.toNat - syllableBase
  if c.toNat < syllableBase ∨ leadingCount * vowelCount * trailingCount ≤ index then none
  else
    let leading := Char.ofNat (leadingBase + index / (vowelCount * trailingCount))
    let vowel := Char.ofNat (vowelBase + index / trailingCount % vowelCount)
    if index % trailingCount = 0 then some [leading, vowel]
    else some [leading, vowel, Char.ofNat (trailingBase + index % trailingCount)]

/-- The syllable of a leading consonant and a vowel, or of a syllable that ends in a vowel and a
trailing consonant. -/
def compose? (a b : Char) : Option Char :=
  let leading := a.toNat - leadingBase
  let vowel := b.toNat - vowelBase
  let index := a.toNat - syllableBase
  let trailing := b.toNat - trailingBase
  if leadingBase ≤ a.toNat ∧ leading < leadingCount ∧ vowelBase ≤ b.toNat ∧ vowel < vowelCount then
    some (Char.ofNat (syllableBase + (leading * vowelCount + vowel) * trailingCount))
  else if syllableBase ≤ a.toNat ∧ index < leadingCount * vowelCount * trailingCount
      ∧ index % trailingCount = 0 ∧ trailingBase < b.toNat ∧ trailing < trailingCount then
    some (Char.ofNat (a.toNat + trailing))
  else none

end Hangul

/-! ### Decomposition and canonical order -/

/-- The full canonical decomposition of a character. -/
def decompose (c : Char) : List Char :=
  ((Hangul.decompose? c).or (tableDecomposition? c)).getD [c]

/-- Puts a mark among the marks of a run behind those of the same or a lower class. -/
def insertMark (c : Char) : List Char → List Char
  | [] => [c]
  | d :: ds => if combiningClass c < combiningClass d then c :: d :: ds else d :: insertMark c ds

/-- Sorts every run of characters that are not starters by class, and keeps the order of those of
one class. -/
def canonicalOrder (cs : List Char) : List Char :=
  let (done, run) := cs.foldl step ([], [])
  (run.reverse ++ done).reverse
where
  /-- Takes one character: the runs before the present one, reversed, and the present run. -/
  step : List Char × List Char → Char → List Char × List Char
    | (done, run), c =>
      if combiningClass c = 0 then (c :: (run.reverse ++ done), []) else (done, insertMark c run)

/-! ### Composition -/

/-- The primary composite of two characters. -/
def compose? (a b : Char) : Option Char := (Hangul.compose? a b).or (tableComposite? a b)

/-- A text on its way through composition. -/
structure Composition where
  /-- What is finished, reversed. -/
  done : List Char
  /-- The last starter. -/
  starter : Option Char
  /-- What follows the last starter and did not compose with it, reversed. -/
  pending : List Char

namespace Composition

/-- Whether a character is kept from the last starter by one that stands between them. -/
def blocks (s : Composition) (c : Char) : Bool :=
  match s.pending with
  | [] => false
  | d :: _ => combiningClass c ≤ combiningClass d

/-- Takes one character. It composes with the last starter if nothing blocks it and the two have
a composite. -/
def step (s : Composition) (c : Char) : Composition :=
  match s.starter with
  | none => if combiningClass c = 0 then { s with starter := some c } else
      { s with done := c :: s.done }
  | some a =>
    match if s.blocks c then none else compose? a c with
    | some composite => { s with starter := some composite }
    | none =>
      if combiningClass c = 0 then ⟨s.pending ++ a :: s.done, some c, []⟩
      else { s with pending := c :: s.pending }

/-- The composed text. -/
def text (s : Composition) : List Char :=
  (s.pending ++ (s.starter.toList ++ s.done)).reverse

end Composition

/-- Composes a text that is decomposed and in canonical order. -/
def compose (cs : List Char) : List Char := (cs.foldl Composition.step ⟨[], none, []⟩).text

/-- Normalization form C of a text. -/
def nfc (cs : List Char) : List Char := compose (canonicalOrder (cs.flatMap decompose))

end StubResolver.Unicode
