import SamlAdmin.Text
import SamlAdmin.Unicode.CombiningClass
import SamlAdmin.Unicode.Decomposition
import SamlAdmin.Unicode.Mapping

/-!
# Canonical composition

Two texts that a reader cannot tell apart have one composed form: every code point
is taken apart, the marks after a base are brought into the order of their classes,
and what can be put together is put together.
-/

namespace SamlAdmin

namespace Unicode

/-- A code point taken apart, at most `depth` times over. -/
def decompose : (depth number : Nat) → List Nat
  | 0, number => [number]
  | depth + 1, number =>
    match decomposed? number with
    | some parts => parts.flatMap (decompose depth)
    | none => [number]

/-- How many times over a code point can be taken apart. -/
def decompositionDepth : Nat := 4

/-- Put a code point at the end of an ordered text, which is held backwards: a mark
goes before the marks of greater classes. -/
def insertMark (number : Nat) : List Nat → List Nat
  | [] => [number]
  | last :: earlier =>
    if 0 < combiningClass number && combiningClass number < combiningClass last then
      last :: insertMark number earlier
    else number :: last :: earlier

/-- Bring the marks of a text into the order of their classes. -/
def orderMarks (numbers : List Nat) : List Nat :=
  (numbers.foldl (fun ordered number => insertMark number ordered) []).reverse

/-- Put together what follows a base.  The marks between the base and the rest are
held backwards; a mark of the same class as the one before it is cut off from the
base. -/
def composeFrom (base : Nat) (marks : List Nat) : List Nat → List Nat
  | [] => base :: marks.reverse
  | number :: rest =>
    let reaches := match marks with
      | [] => true
      | last :: _ => combiningClass last < combiningClass number
    match if reaches then composed? base number else none with
    | some whole => composeFrom whole marks rest
    | none =>
      if combiningClass number = 0 then base :: (marks.reverse ++ composeFrom number [] rest)
      else composeFrom base (number :: marks) rest

/-- Put together the code points of an ordered text. -/
def compose : List Nat → List Nat
  | [] => []
  | number :: rest =>
    if combiningClass number = 0 then composeFrom number [] rest else number :: compose rest

end Unicode

namespace Text

/-- The composed form of a text.  One of ASCII alone is its own. -/
def composed (text : Text) : Text :=
  if text.all CodePoint.isAscii then text
  else
    let parts := text.numbers.flatMap (Unicode.decompose Unicode.decompositionDepth)
    ofNumbers (Unicode.compose (Unicode.orderMarks parts))

end Text

end SamlAdmin
