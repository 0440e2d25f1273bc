/-!
# Punycode

A text over all characters, written with ASCII characters: first the ASCII characters of the text,
then a hyphen if there were any, then the other characters in the order of their code points, each
as a number that tells how many states an insertion machine skips until it inserts the character.
The numbers are written with digits of varying weight, least significant digit first, and are kept
below 2 to the power 32.
-/

namespace StubResolver.Punycode

/-! ### Digits of varying weight -/

/-- The number of digits. -/
def base : Nat := 36

/-- The least threshold. -/
def minThreshold : Nat := 1

/-- The greatest threshold. -/
def maxThreshold : Nat := 26

/-- The greatest number that a machine counts to. -/
def maxCount : Nat := 0xFFFFFFFF

/-- The bias before anything is inserted. -/
def initialBias : Nat := 72

/-- The first code point beyond ASCII. -/
def initialCode : Nat := 0x80

/-- The threshold of the digit at position `k`, counted in steps of `base`. A digit below it is
the last of its number. -/
def threshold (k bias : Nat) : Nat :=
  if k ≤ bias then minThreshold
  else if bias + maxThreshold ≤ k then maxThreshold
  else k - bias

theorem threshold_pos (k bias : Nat) : 0 < threshold k bias := by
  unfold threshold minThreshold maxThreshold
  split
  · omega
  · split <;> omega

/-- The bias after a number was written for an insertion that made a text of `points`
characters. -/
def adapt (delta points : Nat) (isFirst : Bool) : Nat :=
  let delta := if isFirst then delta / 700 else delta / 2
  settle (delta + delta / points) 0
where
  /-- Divides until the number is small. -/
  settle (delta k : Nat) : Nat :=
    if (base - minThreshold) * maxThreshold / 2 < delta then
      settle (delta / (base - minThreshold)) (k + base)
    else k + (base - minThreshold + 1) * delta / (delta + 38)
  termination_by delta
  decreasing_by
    exact Nat.div_lt_self (by omega) (by decide)

/-- The digit of a value: the letters stand for 0 to 25, the figures for 26 to 35. -/
def digit (n : Nat) : Char :=
  if n < 26 then Char.ofNat ('a'.toNat + n) else Char.ofNat ('0'.toNat + n - 26)

/-- The value of a digit, in either case. -/
def digit? (c : Char) : Option Nat :=
  if c.isLower then some (c.toNat - 'a'.toNat)
  else if c.isUpper then some (c.toNat - 'A'.toNat)
  else if c.isDigit then some (c.toNat - '0'.toNat + 26)
  else none

/-! ### Writing -/

/-- The digits of a number, from position `k` on. -/
def digits (bias k n : Nat) : List Char :=
  let t := threshold k bias
  if n < t then [digit n]
  else digit (t + (n - t) % (base - t)) :: digits bias (k + base) ((n - t) / (base - t))
termination_by n
decreasing_by
  have := threshold_pos k bias
  have := Nat.div_le_self (n - threshold k bias) (base - threshold k bias)
  omega

/-- The state of a writer. -/
structure Writer where
  /-- The characters written for insertions so far, reversed. -/
  output : List Char
  /-- The states skipped since the last insertion. -/
  delta : Nat
  /-- The bias of the next number. -/
  bias : Nat
  /-- The characters of the text that are inserted already. -/
  handled : Nat

namespace Writer

/-- Passes one character of the text while the characters with code point `code` are inserted. -/
def pass (basic code : Nat) (w : Writer) (c : Char) : Writer :=
  if c.toNat < code then { w with delta := w.delta + 1 }
  else if c.toNat = code then
    { output := (digits w.bias base w.delta).reverse ++ w.output
      delta := 0
      bias := adapt w.delta (w.handled + 1) (w.handled == basic)
      handled := w.handled + 1 }
  else w

/-- Inserts the characters with the code points listed, of which `next` is the first that was not
considered yet. -/
def insertAll (text : List Char) (basic : Nat) : List Nat → Nat → Writer → Option Writer
  | [], _, w => some w
  | code :: codes, next, w =>
    let delta := w.delta + (code - next) * (w.handled + 1)
    if maxCount < delta then none
    else
      let w := text.foldl (pass basic code) { w with delta := delta }
      insertAll text basic codes (code + 1) { w with delta := w.delta + 1 }

end Writer

/-- Keeps the first of neighbouring equal numbers. -/
def dropRepeats : List Nat → List Nat
  | a :: b :: rest => if a = b then dropRepeats (b :: rest) else a :: dropRepeats (b :: rest)
  | rest => rest

/-- The code points of a text beyond ASCII, in increasing order and each once. -/
def extendedCodes (text : List Char) : List Nat :=
  dropRepeats (((text.map Char.toNat).filter (initialCode ≤ ·)).mergeSort)

/-- The written form of a text, unless a number of it is too large. -/
def encode? (text : List Char) : Option (List Char) := do
  let ascii := text.filter (·.toNat < initialCode)
  let start : Writer :=
    { output := if ascii.isEmpty then [] else '-' :: ascii.reverse
      delta := 0
      bias := initialBias
      handled := ascii.length }
  let w ← start.insertAll text ascii.length (extendedCodes text) initialCode
  return w.output.reverse

/-! ### Reading -/

/-- The state of a reader. -/
structure Reader where
  /-- The text inserted so far. -/
  output : List Char
  /-- The code point that is inserted next. -/
  code : Nat
  /-- Where it is inserted, with full rounds counted on. -/
  index : Nat
  /-- The index at which the present number began. -/
  start : Nat
  /-- The weight of the next digit. -/
  weight : Nat
  /-- The position of the next digit, in steps of `base`. -/
  k : Nat
  /-- The bias of the present number. -/
  bias : Nat

namespace Reader

/-- Inserts a character when the last digit of a number was read. -/
def insert (r : Reader) : Option Reader :=
  let points := r.output.length + 1
  let code := r.code + r.index / points
  let place := r.index % points
  if code.isValidChar then
    some
      { output := r.output.take place ++ Char.ofNat code :: r.output.drop place
        code := code
        index := place + 1
        start := place + 1
        weight := 1
        k := base
        bias := adapt (r.index - r.start) points (r.start == 0) }
  else none

/-- Reads one digit. -/
def step (r : Reader) (c : Char) : Option Reader := do
  let d ← digit? c
  let index := r.index + d * r.weight
  let t := threshold r.k r.bias
  if maxCount < index then none
  else if d < t then insert { r with index := index }
  else if maxCount < r.weight * (base - t) then none
  else some { r with index := index, weight := r.weight * (base - t), k := r.k + base }

/-- Whether the reader stands between two numbers. -/
def isComplete (r : Reader) : Bool := r.k == base

end Reader

/-- The text of a written form. The ASCII characters end at the last hyphen, which does not come
first. -/
def decode? (cs : List Char) : Option (List Char) := do
  let numbers := (cs.reverse.takeWhile (· ≠ '-')).reverse
  let ascii := cs.take (cs.length - numbers.length - 1)
  if '-' ∈ cs ∧ ascii = [] then none
  else if ascii.any (initialCode ≤ ·.toNat) then none
  else
    let start : Reader :=
      { output := ascii, code := initialCode, index := 0, start := 0, weight := 1, k := base,
        bias := initialBias }
    let r ← numbers.foldlM Reader.step start
    if r.isComplete then some r.output else none

end StubResolver.Punycode
