import StubResolver.Idna.Bidi
import StubResolver.Idna.Mapping
import StubResolver.Idna.Punycode
import StubResolver.Unicode.Mark
import StubResolver.Unicode.Normalization

/-!
# Internationalised labels

The ASCII form of a text that is meant as part of a name, and the way back. A label with
characters beyond ASCII is written as `xn--` and its Punycode form. Neither hyphens nor lengths
are looked at here.
-/

namespace StubResolver.Idna

open Unicode

/-- What an encoded label begins with. -/
def encodedMark : List Char := ['x', 'n', '-', '-']

/-- A way to find the ASCII form of a text, or all that is wrong with the text. -/
abbrev Converter := List Char → Except (List Fault) (List Char)

/-- The labels of a text. -/
def labels (cs : List Char) : List (List Char) := Text.splitOn (· == '.') cs

/-- Puts full stops between labels. -/
def joinLabels (labels : List (List Char)) : List Char := List.intercalate ['.'] labels

/-- What keeps a label from standing as it is: it begins with a combining mark, or the mapping does
not keep its characters. -/
def labelFaults : List Char → List Fault
  | [] => []
  | c :: cs =>
    if isMark c then [.leadingMark]
    else if (c :: cs).all (mapping · == .valid) then []
    else [.notKept]

/-- The Unicode form of a label that is mapped and normalised, and what is wrong with it. An encoded
label has to be the encoding of a normalised label, which is looked at only as long as nothing else
was found. -/
def decodeLabel (found : List Fault) (cs : List Char) : List Char × List Fault :=
  if encodedMark.isPrefixOf cs then
    match Punycode.decode? (cs.drop encodedMark.length) with
    | none => ([], [.punycode])
    | some label =>
      if !found.isEmpty then (label, [])
      else if nfc label != label then (label, [.notNormal])
      else (label, labelFaults label)
  else (cs, labelFaults cs)

/-- The Unicode forms of labels, and what is wrong with them, behind what was found before. -/
def decodeLabels (found : List Fault) : List (List Char) → List (List Char) × List Fault
  | [] => ([], found)
  | cs :: rest =>
    let (label, faults) := decodeLabel found cs
    let (labels, found) := decodeLabels (found ++ faults) rest
    (label :: labels, found)

/-- The ASCII form of a label. -/
def encodeLabel? (cs : List Char) : Option (List Char) :=
  if cs.all (·.toNat < 0x80) then some cs
  else (Punycode.encode? cs).map (encodedMark ++ ·)

/-- The ASCII form of a text, or all that is wrong with the text. It is mapped and normalised, its
labels are validated and checked for their direction, and each is encoded. A label whose encoding
cannot be read may run from right to left. -/
def toAscii (cs : List Char) : Except (List Fault) (List Char) :=
  let (mapped, found) := mapText cs
  let (labels, found) := decodeLabels found (labels (nfc mapped))
  let isBidirectional := .punycode ∈ found || labels.any hasRightToLeft
  let faults :=
    if isBidirectional && !labels.all keepsDirection then found ++ [.direction] else found
  match labels.mapM encodeLabel? with
  | none => .error (faults ++ [.punycode])
  | some encoded => if faults.isEmpty then .ok (joinLabels encoded) else .error faults

/-- The Unicode form of an ASCII text. Letters become small, and each encoded label is replaced by
the label that it encodes, or by nothing if it encodes none. -/
def toUnicode (cs : List Char) : List Char :=
  joinLabels ((labels (cs.map Char.toLower)).map fun label =>
    if encodedMark.isPrefixOf label then
      (Punycode.decode? (label.drop encodedMark.length)).getD []
    else label)

end StubResolver.Idna
