import StubResolver.Text.Hex
import StubResolver.Text.Words

/-!
# Tables over code points

A table is a list of ranges in increasing order, each with a value that its code points share.
Tables are written as text: rows stand between white space, a row is `first-last:value` or
`first:value`, and code points are in hexadecimal digits.
-/

namespace StubResolver.Unicode

/-- A range of code points, both ends included, and its value. -/
structure CodeRange (α : Type) where
  first : Nat
  last : Nat
  value : α

/-- Ranges in increasing order, no two of which overlap. -/
structure CodeTable (α : Type) where
  ranges : Array (CodeRange α)

namespace CodeTable

variable {α : Type}

/-- The range that holds a code point, among those from index `low` up to but not including
index `high`, by halving. -/
def search (t : CodeTable α) (n low high : Nat) : Option (CodeRange α) :=
  if low < high then
    let middle := (low + high) / 2
    match t.ranges[middle]? with
    | none => none
    | some r =>
      if n < r.first then t.search n low middle
      else if r.last < n then t.search n (middle + 1) high
      else some r
  else none
termination_by high - low

/-- The range that holds a code point. -/
def range? (t : CodeTable α) (n : Nat) : Option (CodeRange α) := t.search n 0 t.ranges.size

/-- The value of a character. -/
def value? (t : CodeTable α) (c : Char) : Option α := (t.range? c.toNat).map (·.value)

/-- Whether a character is in one of the ranges. -/
def contains (t : CodeTable α) (c : Char) : Bool := (t.range? c.toNat).isSome

/-! ### The text form -/

/-- Reads the row `first-last:value` or `first:value`. -/
def row? (value? : List Char → Option α) (row : List Char) : Option (CodeRange α) := do
  let (range, value) := cut ':' row
  let (first, last) := cut '-' range
  let first ← Hex.toNat? first
  let last ← if last.isEmpty then some first else Hex.toNat? last
  return ⟨first, last, ← value? value⟩
where
  /-- What stands before and after the first occurrence of a character. -/
  cut (mark : Char) (cs : List Char) : List Char × List Char :=
    (cs.takeWhile (· ≠ mark), (cs.dropWhile (· ≠ mark)).drop 1)

/-- The table that a text writes, with a reader for the values. -/
def ofText (value? : List Char → Option α) (text : String) : CodeTable α :=
  ⟨((Text.words text.toList).filterMap (row? value?)).toArray⟩

/-- Reads code points that are separated by points. -/
def codePoints? (cs : List Char) : Option (List Nat) :=
  (Text.splitOn (· == '.') cs).mapM Hex.toNat?

end CodeTable

end StubResolver.Unicode
