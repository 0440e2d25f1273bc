/-!
# Lengths of time

A length of time is given in whole seconds and in nanoseconds for what is left behind them.
-/

namespace StubResolver

/-- A part of a second, in nanoseconds. -/
abbrev Nanoseconds := Fin 1000000000

/-- No part of a second. -/
def Nanoseconds.zero : Nanoseconds := ⟨0, by decide⟩

/-- A length of time. -/
structure Duration where
  /-- The whole seconds. -/
  seconds : Nat
  /-- What is left behind the whole seconds. -/
  nanoseconds : Nanoseconds := .zero
  deriving DecidableEq, Repr

namespace Duration

/-- So many milliseconds. -/
def ofMilliseconds (n : Nat) : Duration where
  seconds := n / 1000
  nanoseconds := ⟨n % 1000 * 1000000, by omega⟩

/-- The whole milliseconds of a length of time. -/
def inMilliseconds (d : Duration) : Nat := d.seconds * 1000 + d.nanoseconds.val / 1000000

/-- A length of time as a number of nanoseconds. -/
def inNanoseconds (d : Duration) : Nat := d.seconds * 1000000000 + d.nanoseconds.val

instance : LE Duration := ⟨fun d e => d.inNanoseconds ≤ e.inNanoseconds⟩

instance : DecidableLE Duration := fun d e =>
  inferInstanceAs (Decidable (d.inNanoseconds ≤ e.inNanoseconds))

instance : Max Duration := maxOfLe

/-- The greater of two lengths of time is not less than either. -/
theorem le_max_right (d e : Duration) : e ≤ max d e := by
  change e.inNanoseconds ≤ (if d.inNanoseconds ≤ e.inNanoseconds then e else d).inNanoseconds
  split <;> omega

end Duration

end StubResolver
