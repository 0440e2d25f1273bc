/-!
# Unsigned decimal numerals

A numeral is one or more decimal digits, with at most one plus sign in front, and stands for a
number up to a bound. It is read from the left, and the first digit that does not fit decides
what is wrong with it.
-/

namespace StubResolver.Numeral

/-- What can be wrong with a numeral. -/
inductive Fault where
  /-- There is nothing to read. -/
  | empty
  /-- A character is not a digit. -/
  | foreignDigit
  /-- The number is above the bound. -/
  | tooLarge
  deriving DecidableEq, Repr

/-- What a reader is told about a fault. -/
def Fault.message : Fault → String
  | .empty => "cannot parse integer from empty string"
  | .foreignDigit => "invalid digit found in string"
  | .tooLarge => "number too large to fit in target type"

/-- The value of a decimal digit. -/
def digit? (c : Char) : Option Nat :=
  if c.isDigit then some (c.toNat - '0'.toNat) else none

/-- Appends one digit to the number read so far. -/
def push (max n : Nat) (c : Char) : Except Fault Nat :=
  match digit? c with
  | none => .error .foreignDigit
  | some d => if 10 * n + d ≤ max then .ok (10 * n + d) else .error .tooLarge

/-- The number that digits write, up to a bound. -/
def ofDigits (max : Nat) (cs : List Char) : Except Fault Nat :=
  cs.foldlM (push max) 0

/-- The number that a numeral writes, up to a bound. -/
def ofChars (max : Nat) : List Char → Except Fault Nat
  | [] => .error .empty
  | ['+'] => .error .foreignDigit
  | '+' :: digits => ofDigits max digits
  | digits => ofDigits max digits

/-- The decimal digits of a number, without a sign or leading zeros. -/
def toChars (n : Nat) : List Char := Nat.toDigits 10 n

/-- A number in exactly three digits, for numbers below a thousand. -/
def threeDigits (n : Nat) : List Char :=
  [Nat.digitChar (n / 100 % 10), Nat.digitChar (n / 10 % 10), Nat.digitChar (n % 10)]

end StubResolver.Numeral
