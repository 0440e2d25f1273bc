import StubResolver.Unicode.BidiClass

/-!
# Labels of bidirectional text

If any label of a name holds a character that runs from right to left, every label has to keep to
one direction, so that the labels stay apart when the name is displayed.
-/

namespace StubResolver.Idna

open Unicode

/-- Whether a label holds a letter or number of a script that runs from right to left. -/
def hasRightToLeft (cs : List Char) : Bool :=
  cs.any fun c => 0x80 ≤ c.toNat &&
    match bidiClass c with
    | .rightToLeft | .arabicLetter | .arabicNumber => true
    | _ => false

/-- Whether a class may stand in a label that runs from left to right. -/
def inLeftToRight : BidiClass → Bool
  | .leftToRight | .europeanNumber | .europeanSeparator | .commonSeparator
  | .europeanTerminator | .otherNeutral | .boundaryNeutral | .nonspacingMark => true
  | _ => false

/-- Whether a class may stand in a label that runs from right to left. -/
def inRightToLeft : BidiClass → Bool
  | .rightToLeft | .arabicLetter | .arabicNumber | .europeanNumber | .europeanSeparator
  | .commonSeparator | .europeanTerminator | .otherNeutral | .boundaryNeutral
  | .nonspacingMark => true
  | _ => false

/-- The last class of a label that is not that of a nonspacing mark. -/
def lastClass? (classes : List BidiClass) : Option BidiClass :=
  (classes.reverse.dropWhile (· == .nonspacingMark)).head?

/-- Whether a label keeps to one direction. A label from left to right begins with a letter and
ends in a letter or a European number; one from right to left begins with a letter, ends in a
letter or a number, and does not mix European with Arabic numbers. -/
def keepsDirection (cs : List Char) : Bool :=
  let classes := cs.map bidiClass
  match classes with
  | [] => true
  | .leftToRight :: rest =>
    rest.all inLeftToRight &&
      match lastClass? classes with
      | some .leftToRight | some .europeanNumber => true
      | _ => false
  | .rightToLeft :: rest | .arabicLetter :: rest =>
    rest.all inRightToLeft
      && (match lastClass? classes with
        | some .rightToLeft | some .arabicLetter | some .europeanNumber
        | some .arabicNumber => true
        | _ => false)
      && !(rest.contains .europeanNumber && rest.contains .arabicNumber)
  | _ => false

end StubResolver.Idna
