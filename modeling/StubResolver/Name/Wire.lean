import StubResolver.Wire.Decoder

/-!
# Names on the wire

A name is read label by label. Where a compression pointer stands, reading goes on at the position
that it points to, which lies before the pointer, and the name ends behind the first pointer that
was followed.
-/

namespace StubResolver

/-- A label takes up at least one octet. -/
theorem Label.wireLength_pos (l : Label) : 0 < l.wireLength := by
  cases l <;> simp only [wireLength] <;> omega

namespace Name

/-! ### What stands at a position -/

/-- What a name has at a position. -/
inductive Element where
  /-- The end of the name. -/
  | stop
  /-- A label. -/
  | label (l : Label)
  /-- A compression pointer, with the position that it points to. -/
  | pointer (target : Nat)
  deriving DecidableEq, Repr

/-- Reads what a name has at a position. -/
def element (p : Packet) (i : Nat) : Except Error Element :=
  match p[i]? with
  | none => .error (.format .shortInput)
  | some mark =>
    if mark = 0 then .ok .stop
    else if mark.toNat ≤ Label.maxLength then do
      let (octets, _) ← Decoder.octets mark.toNat p (i + 1)
      return .label (.text octets)
    else if mark = Label.bitsMark then do
      let (n, _) ← Decoder.octet p (i + 1)
      let count := if n = 0 then Label.maxBits else n.toNat
      let (octets, _) ← Decoder.octets (Label.octetsFor count) p (i + 2)
      return .label (.bits octets count)
    else if 0xC0 ≤ mark then do
      let (low, _) ← Decoder.octet p (i + 1)
      return .pointer (256 * (mark.toNat - 0xC0) + low.toNat)
    else .error (.unsupportedLabelType mark)

/-- Whatever a name has stands inside the packet. -/
theorem lt_size_of_element {p : Packet} {i : Nat} {e : Element} (h : element p i = .ok e) :
    i < p.size := by
  unfold element at h
  split at h
  case h_1 => cases h
  case h_2 mark hmark => exact (Array.getElem?_eq_some_iff.1 hmark).1

/-! ### The walk -/

/-- Follows a name from a position on. `hops` pointers were followed before, `resume` is the
position behind the first of them, and `done` holds the labels met so far, reversed. -/
def walk (p : Packet) (i hops : Nat) (resume : Option Nat) (done : List Label) :
    Except Error (Name × Nat) :=
  match h : element p i with
  | .error e => .error e
  | .ok .stop => .ok (⟨done.reverse⟩, resume.getD (i + 1))
  | .ok (.label l) =>
    have := lt_size_of_element h
    have := l.wireLength_pos
    walk p (i + l.wireLength) hops resume (l :: done)
  | .ok (.pointer target) =>
    if i ≤ target then .error (.format (.forwardPointer i target))
    else if maxPointers ≤ hops then .error (.format .tooManyPointers)
    else walk p target (hops + 1) (some (resume.getD (i + 2))) done
termination_by (maxPointers - hops, p.size - i)

/-- Reads a name. -/
def decoder : Decoder Name := fun p i => walk p i 0 none []

end Name

end StubResolver
