import SamlAdmin.Host.Punycode
import SamlAdmin.Unicode.CombiningClass
import SamlAdmin.Unicode.Direction
import SamlAdmin.Unicode.Joining
import SamlAdmin.Unicode.Mark
import SamlAdmin.Unicode.Mapping

/-!
# Labels of host names

A host name is made of labels with dots between them.  A label with other than ASCII
code points is written in ASCII behind four signs, `Label.toAscii`.  Which labels
make sense depends on the scripts in them: a joiner needs letters that it keeps
apart or together, and a label with letters from right to left must not read
differently in its surroundings.
-/

namespace SamlAdmin.Host.Label

def mark : Text := "xn--"

/-- The ASCII spelling of a label. -/
def toAscii (label : Text) : Text :=
  if label.all CodePoint.isAscii then label else mark ++ Punycode.encode label

/-- Whether a label begins with a mark, which would attach to the dot before it. -/
def beginsWithMark : Text → Bool
  | [] => false
  | first :: _ => Unicode.isMark first.toNat

/-- Whether the first number of a list that is not looked through satisfies a test. -/
def nextJoins (joins : Nat → Bool) (numbers : List Nat) : Bool :=
  match numbers.dropWhile Unicode.isTransparent with
  | [] => false
  | number :: _ => joins number

/-- The code point that keeps letters apart that would join. -/
def nonJoiner : Nat := 0x200C

/-- The code point that joins letters that would stand apart. -/
def joiner : Nat := 0x200D

/-- Whether a joiner or its opposite may stand between two parts of a label, the
first of which is given backwards.  Both may follow a virama, and the opposite may
stand between letters that would join. -/
def joinerFits (number : Nat) (before after : List Nat) : Bool :=
  (match before with
    | [] => false
    | last :: _ => Unicode.combiningClass last = Unicode.viramaClass)
  || (number = nonJoiner && nextJoins Unicode.joinsNext before
    && nextJoins Unicode.joinsPrevious after)

/-- Whether every code point of a label satisfies a test of the code points before
it, backwards, of itself, and of those after it. -/
def allInContext (test : List Nat → Nat → List Nat → Bool) : (before numbers : List Nat) → Bool
  | _, [] => true
  | before, number :: after =>
    test before number after && allInContext test (number :: before) after

/-- Whether every joiner of a label fits its place. -/
def joinersFit (label : Text) : Bool :=
  allInContext (fun before number after =>
    (number ≠ joiner && number ≠ nonJoiner) || joinerFits number before after) [] label.numbers

def directions (label : Text) : List Unicode.Direction :=
  label.numbers.map Unicode.Direction.ofNumber

/-- Whether a label holds letters or digits that are written from right to left. -/
def hasRightToLeft (label : Text) : Bool :=
  (directions label).any fun direction =>
    direction = .rightToLeft || direction = .arabicLetter || direction = .arabicNumber

/-- Whether a class may stand in any label. -/
def isCommon (direction : Unicode.Direction) : Bool :=
  direction = .europeanNumber || direction = .europeanSeparator || direction = .commonSeparator
    || direction = .europeanTerminator || direction = .neutral || direction = .boundary
    || direction = .nonspacing

/-- Whether a label that begins from left to right keeps its order: it has no letter
from right to left, and it ends with a letter or a digit. -/
def keepsLeftToRight (classes : List Unicode.Direction) : Bool :=
  classes.all (fun direction => direction = .leftToRight || isCommon direction)
    && match classes.reverse.dropWhile (· = .nonspacing) with
      | [] => false
      | last :: _ => last = .leftToRight || last = .europeanNumber

/-- Whether a label that begins from right to left keeps its order: it has no letter
from left to right, digits of one kind, and it ends with a letter or a digit. -/
def keepsRightToLeft (classes : List Unicode.Direction) : Bool :=
  classes.all (fun direction => direction = .rightToLeft || direction = .arabicLetter
      || direction = .arabicNumber || isCommon direction)
    && !(classes.contains .arabicNumber && classes.contains .europeanNumber)
    && match classes.reverse.dropWhile (· = .nonspacing) with
      | [] => false
      | last :: _ => last = .rightToLeft || last = .arabicLetter || last = .europeanNumber
        || last = .arabicNumber

/-- Whether a label keeps its order in surroundings of either direction. -/
def keepsOrder (label : Text) : Bool :=
  let classes := directions label
  match classes with
  | [] => true
  | .leftToRight :: _ => keepsLeftToRight classes
  | .rightToLeft :: _ => keepsRightToLeft classes
  | .arabicLetter :: _ => keepsRightToLeft classes
  | _ => false

end SamlAdmin.Host.Label
