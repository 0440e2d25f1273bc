import StubResolver.Idna.Basic
import StubResolver.Name.Label

/-!
# Names

A name is a sequence of labels, and the root is the empty one. Names are compared without regard
to the case of ASCII letters.
-/

namespace StubResolver

/-- A domain name, the label next to the root last. -/
structure Name where
  labels : List Label
  deriving DecidableEq, Repr

namespace Name

/-- The name without labels. -/
def root : Name := ⟨[]⟩

/-- Whether a name is the root. -/
def isRoot (n : Name) : Bool := n.labels.isEmpty

/-- The number of labels. -/
def labelCount (n : Name) : Nat := n.labels.length

/-- Whether a name is a candidate for search suffixes. -/
def isSingleLabel (n : Name) : Bool := n.labels.length == 1

/-- The name without its first label. The root has no parent. -/
def parent? (n : Name) : Option Name :=
  match n.labels with
  | [] => none
  | _ :: labels => some ⟨labels⟩

/-- The labels of a name followed by those of another. -/
def join (n suffix : Name) : Name := ⟨n.labels ++ suffix.labels⟩

/-- A name that the wire can carry. -/
def IsValid (n : Name) : Prop := ∀ l ∈ n.labels, l.IsValid

instance : DecidablePred IsValid := fun n => by unfold IsValid; infer_instance

/-! ### Wire form -/

/-- The number of octets on the wire, without compression. -/
def wireLength (n : Name) : Nat := n.labels.foldr (fun l length => l.wireLength + length) 1

/-- The octets on the wire, without compression. -/
def encode (n : Name) : Octets := n.labels.flatMap Label.encode ++ [0]

theorem encode_cons (l : Label) (labels : List Label) :
    encode ⟨l :: labels⟩ = l.encode ++ encode ⟨labels⟩ := by
  simp only [encode, List.flatMap_cons, List.append_assoc]

@[simp] theorem length_encode (n : Name) : n.encode.length = n.wireLength := by
  obtain ⟨labels⟩ := n
  induction labels with
  | nil => rfl
  | cons l labels ih =>
    simp only [encode, wireLength, List.flatMap_cons, List.append_assoc, List.length_append,
      Label.length_encode, List.foldr_cons] at ih ⊢
    omega

/-! ### Comparison -/

/-- The name in small letters. -/
def fold (n : Name) : Name := ⟨n.labels.map Label.fold⟩

/-- Whether two names are equal up to the case of their letters. -/
def same (n m : Name) : Bool := n.fold = m.fold

/-- What a hash function is fed for a name, piece by piece: the number of labels, and then the
labels. -/
def hashFeed (n : Name) : List Octets :=
  .leastFirst 8 n.labels.length :: n.labels.flatMap Label.hashFeed

/-! ### Case of the letters -/

/-- Draws one bit for each letter, beginning with bit `i`, and changes the case of the letters
whose bit is set. Gives the number of the next bit as well. -/
def recaseOctets (bits : Nat → Bool) : (i : Nat) → Octets → Octets × Nat
  | i, [] => ([], i)
  | i, b :: octets =>
    if isLetter b then
      let r := recaseOctets bits (i + 1) octets
      ((if bits i then b ^^^ 0x20 else b) :: r.1, r.2)
    else
      let r := recaseOctets bits i octets
      (b :: r.1, r.2)

/-- Changes the case of the letters of labels of text. -/
def recaseLabels (bits : Nat → Bool) : (i : Nat) → List Label → List Label
  | _, [] => []
  | i, .text octets :: labels =>
    let r := recaseOctets bits i octets
    .text r.1 :: recaseLabels bits r.2 labels
  | i, label :: labels => label :: recaseLabels bits i labels

/-- The name with the case of its letters changed as a stream of bits says, one for each
letter. -/
def recase (bits : Nat → Bool) (n : Name) : Name := ⟨recaseLabels bits 0 n.labels⟩

/-! ### Text form -/

/-- The text form: every label is followed by a point, and the root is a point. -/
def chars (n : Name) : List Char :=
  match n.labels with
  | [] => ['.']
  | labels => labels.flatMap fun l => l.chars ++ ['.']

/-- The text form as a string. -/
def text (n : Name) : String := String.ofList n.chars

instance : ToString Name := ⟨text⟩

/-- The text form with internationalised labels in Unicode. -/
def unicodeText (n : Name) : String := String.ofList (Idna.toUnicode n.chars)

end Name

end StubResolver
