import SamlAdmin.Binary64
import SamlAdmin.Text.Blank

/-!
# Reading decimal numbers

A number is a sign, digits with an optional point among them, and an optional
exponent, or one of the words for infinity and for what is no number.  White space
around it is dropped.  Failing that, single underscores between the signs of a
number are passed over, but then no white space is dropped.
-/

namespace SamlAdmin.Text

/-- The words for numbers that are not finite. -/
def numberWord? (negative : Bool) (text : Text) : Option Binary64 :=
  let word := text.asciiLower
  if word = ("inf" : Text) ∨ word = ("infinity" : Text) then some (.infinite negative)
  else if word = ("nan" : Text) then some .nan
  else none

/-- Split a sign from the beginning of a text: whether it is a minus, and the
rest. -/
def cutSign : Text → Bool × Text
  | .char '-' :: rest => (true, rest)
  | .char '+' :: rest => (false, rest)
  | rest => (false, rest)

/-- The exponent that a text is, if it is one; no text stands for zero. -/
def exponentOf? : Text → Option Int
  | [] => some 0
  | .char mark :: rest =>
    if mark = 'e' ∨ mark = 'E' then
      let (negative, digits) := cutSign rest
      if digits.isEmpty || !digits.all CodePoint.isDigit then none
      else
        let size : Int := (digitsValue digits : Nat)
        some (if negative then -size else size)
    else none
  | _ => none

/-- The number that a text without a sign writes in decimal. -/
def unsignedDecimal? (negative : Bool) (text : Text) : Option Binary64 :=
  let whole := text.takeWhile CodePoint.isDigit
  let (fraction, rest) : Text × Text := match text.drop whole.length with
    | .char '.' :: rest =>
      let fraction := rest.takeWhile CodePoint.isDigit
      (fraction, rest.drop fraction.length)
    | rest => ([], rest)
  if whole.isEmpty && fraction.isEmpty then none
  else (exponentOf? rest).map fun exponent =>
    .ofDecimal negative (digitsValue (whole ++ fraction)) (exponent - fraction.length)

/-- The number that a text writes. -/
def plainDecimal? (text : Text) : Option Binary64 :=
  let (negative, rest) := cutSign text
  (numberWord? negative rest).or (unsignedDecimal? negative rest)

/-- A text without its underscores, if each of them stands alone and inside. -/
def withoutUnderscores? (text : Text) : Option Text :=
  let parts := text.splitOn (.char '_')
  if 1 < parts.length && parts.all (!·.isEmpty) then some parts.flatten else none

/-- The number that a text writes, with the liberties described above. -/
def toDecimal? (text : Text) : Option Binary64 :=
  (plainDecimal? text.trimWhiteSpace).or ((withoutUnderscores? text).bind plainDecimal?)

end SamlAdmin.Text
