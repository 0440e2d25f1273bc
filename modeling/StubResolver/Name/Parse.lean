import StubResolver.Error

/-!
# Names from text

Labels stand between points, and a point may follow the last. A backslash takes the meaning from
the character behind it, or stands in front of an octet in three decimal digits. A label of bits
stands in brackets. A label with a character that is neither a letter, a digit, a hyphen nor an
underscore, and that no backslash made plain, is put into its ASCII form.
-/

namespace StubResolver

/-! ### Labels of bits -/

namespace Label

/-- The label that the body of a bracket writes: an x, octets in hexadecimal digits, and perhaps
the number of bits behind a slash. -/
def ofBitsBody : List Char → Except NameFault Label
  | [] => .error .bitsNotHex
  | x :: body =>
    if x ≠ 'x' ∧ x ≠ 'X' then .error .bitsNotHex
    else
      let digits := body.takeWhile (· ≠ '/')
      match Hex.octets? digits with
      | none => .error (.badBits (String.ofList digits))
      | some octets =>
        if octets.isEmpty ∨ octetsFor maxBits < octets.length then
          .error (.badBits (String.ofList digits))
        else do
          let count ← bitCount octets (body.dropWhile (· ≠ '/'))
          if count = 0 ∨ maxBits < count ∨ octetsFor count ≠ octets.length then
            .error (.bitCountMismatch octets.length count)
          else return .bits octets count
where
  /-- The number behind the slash, or all bits where there is no slash. -/
  bitCount (octets : Octets) : List Char → Except NameFault Nat
    | [] => .ok (8 * octets.length)
    | _ :: numeral =>
      match Numeral.ofChars 65535 numeral with
      | .ok n => .ok n
      | .error fault => .error (.badBitCount fault)

/-! ### Labels of text -/

/-- One character of a label, as it was written. -/
inductive Item where
  /-- An octet that stands for itself. -/
  | octet (b : UInt8)
  /-- A character that makes the label an internationalised one. -/
  | foreign (c : Char)
  deriving DecidableEq, Repr

namespace Item

/-- A character without a backslash. -/
def ofChar (c : Char) : Item := if isPlain c then .octet (.ofNat c.toNat) else .foreign c

/-- A character behind a backslash. Only one beyond ASCII still needs an ASCII form. -/
def ofEscaped (c : Char) : Item := if c.toNat < 0x80 then .octet (.ofNat c.toNat) else .foreign c

/-- The octets of an item. -/
def octets : Item → Octets
  | octet b => [b]
  | foreign c => Utf8.encodeChar c

/-- Whether an item makes its label an internationalised one. -/
def isForeign : Item → Bool
  | octet _ => false
  | foreign _ => true

end Item

/-- A label of text, unless it is too long. -/
def ofOctets (octets : Octets) : Except NameFault Label :=
  if maxLength < octets.length then .error .labelTooLong else .ok (.text octets)

/-- The label that items write, with a function that finds ASCII forms. -/
def ofItems (toAscii : Idna.Converter) (items : List Item) : Except NameFault Label :=
  let octets := items.flatMap Item.octets
  if items.isEmpty then .error .emptyLabel
  else if items.any Item.isForeign then
    match Utf8.decode? octets with
    | .error fault => .error (.notUtf8 fault)
    | .ok cs =>
      match toAscii cs with
      | .error faults => .error (.notIdna (String.ofList cs) faults)
      | .ok ascii =>
        if '.' ∈ ascii then .error (.severalLabels (String.ofList cs))
        else ofOctets (Utf8.encode ascii)
  else ofOctets octets

/-- Reads items up to a point, which is dropped, or to the end, behind those that were read before,
reversed. -/
def itemsOnto (done : List Item) : List Char → Except NameFault (List Item × List Char)
  | [] => .ok (done.reverse, [])
  | '.' :: rest => .ok (done.reverse, rest)
  | '\\' :: [] => .error .unfinishedEscape
  | '\\' :: c :: rest =>
    match Numeral.digit? c with
    | none => itemsOnto (Item.ofEscaped c :: done) rest
    | some hundreds =>
      match rest with
      | d :: e :: rest =>
        match Numeral.digit? d, Numeral.digit? e with
        | some tens, some ones =>
          let n := 100 * hundreds + 10 * tens + ones
          if 255 < n then .error .largeEscape else itemsOnto (.octet (.ofNat n) :: done) rest
        | _, _ => .error .shortEscape
      | _ => .error .shortEscape
  | c :: rest => itemsOnto (Item.ofChar c :: done) rest

/-- Whatever is read takes up characters. -/
theorem length_itemsOnto {done items : List Item} {cs rest : List Char}
    (h : itemsOnto done cs = .ok (items, rest)) : rest.length ≤ cs.length - 1 := by
  fun_induction itemsOnto done cs <;> grind

/-- Reads a label of bits behind its opening bracket, with the point that follows. -/
def readBits (cs : List Char) : Except NameFault (Label × List Char) :=
  match cs.dropWhile (· ≠ ']') with
  | [] => .error .openBits
  | _ :: rest =>
    match ofBitsBody (cs.takeWhile (· ≠ ']')) with
    | .error fault => .error fault
    | .ok label =>
      match rest with
      | [] => .ok (label, [])
      | c :: rest => if c = '.' then .ok (label, rest) else .error .textAfterBits

/-- Reads a label, with the point that follows. -/
def read (toAscii : Idna.Converter) (cs : List Char) : Except NameFault (Label × List Char) :=
  match cs with
  | '\\' :: '[' :: body => readBits body
  | cs =>
    match itemsOnto [] cs with
    | .error fault => .error fault
    | .ok (items, rest) =>
      match ofItems toAscii items with
      | .error fault => .error fault
      | .ok label => .ok (label, rest)

/-- A label takes up characters. -/
theorem length_read {toAscii : Idna.Converter} {cs rest : List Char} {l : Label}
    (h : read toAscii cs = .ok (l, rest)) (hcs : cs ≠ []) : rest.length < cs.length := by
  unfold read at h
  split at h
  case h_1 body =>
    unfold readBits at h
    have hd := congrArg List.length (List.takeWhile_append_dropWhile (p := (· ≠ ']')) (l := body))
    grind
  case h_2 =>
    split at h
    · cases h
    case h_2 items rest' hitems =>
      have := length_itemsOnto hitems
      have := List.length_pos_iff.2 hcs
      grind

end Label

/-! ### Names -/

namespace Name

/-- Reads labels up to the end of a text, behind those that were read before, reversed. -/
def labelsOnto (toAscii : Idna.Converter) (done : List Label) (cs : List Char) :
    Except NameFault (List Label) :=
  if hcs : cs = [] then .ok done.reverse
  else
    match h : Label.read toAscii cs with
    | .error fault => .error fault
    | .ok (label, rest) =>
      have := Label.length_read h hcs
      labelsOnto toAscii (label :: done) rest
termination_by cs.length

/-- The name that a text writes, with a function that finds ASCII forms. A lone point is the
root. -/
def ofChars (toAscii : Idna.Converter) (cs : List Char) : Except NameFault Name :=
  if cs = ['.'] then .ok root
  else (labelsOnto toAscii [] cs).map Name.mk

/-- The name that a text writes. -/
def parse (s : String) : Except Error Name :=
  match ofChars Idna.toAscii s.toList with
  | .ok n => .ok n
  | .error fault => .error (.format (.name s fault))

end Name

end StubResolver
