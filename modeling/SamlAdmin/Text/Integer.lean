import SamlAdmin.Text.Blank

/-!
# Reading integers

An integer is read from decimal digits of any script, with blanks around them, a
sign in front, and single underscores between them.  Texts with very many digits
are not read.
-/

namespace SamlAdmin

namespace CodePoint

/-- The zeros of the scripts; nine more digits follow each of them. -/
def digitZeros : List Nat :=
  [0x30, 0x660, 0x6f0, 0x7c0, 0x966, 0x9e6, 0xa66, 0xae6, 0xb66, 0xbe6, 0xc66, 0xce6, 0xd66,
   0xde6, 0xe50, 0xed0, 0xf20, 0x1040, 0x1090, 0x17e0, 0x1810, 0x1946, 0x19d0, 0x1a80, 0x1a90,
   0x1b50, 0x1bb0, 0x1c40, 0x1c50, 0xa620, 0xa8d0, 0xa900, 0xa9d0, 0xa9f0, 0xaa50, 0xabf0,
   0xff10, 0x104a0, 0x10d30, 0x11066, 0x110f0, 0x11136, 0x111d0, 0x112f0, 0x11450, 0x114d0,
   0x11650, 0x116c0, 0x11730, 0x118e0, 0x11950, 0x11c50, 0x11d50, 0x11da0, 0x16a60, 0x16ac0,
   0x16b50, 0x1d7ce, 0x1d7d8, 0x1d7e2, 0x1d7ec, 0x1d7f6, 0x1e140, 0x1e2f0, 0x1e950, 0x1fbf0]

/-- The value of a decimal digit of any script. -/
def digitValue? (point : CodePoint) : Option Nat :=
  let number := point.toNat
  (digitZeros.find? fun first => first ≤ number && number < first + 10).map (number - ·)

end CodePoint

namespace Text

/-- The most digits that an integer may have. -/
def integerDigitLimit : Nat := 4300

/-- The sentence that reports an integer with too many digits. -/
def tooManyDigits (count : Nat) : Text :=
  ("Exceeds the limit (" : Text) ++ ofNat integerDigitLimit
    ++ (" digits) for integer string conversion: value has " : Text) ++ ofNat count
    ++ (" digits; use sys.set_int_max_str_digits() to increase the limit" : Text)

/-- The values of digits with single underscores between them. -/
def groupedDigits? : Text → Option (List Nat)
  | [] => none
  | [last] => last.digitValue?.map ([·])
  | digit :: .char '_' :: rest =>
    match digit.digitValue?, groupedDigits? rest with
    | some value, some values => some (value :: values)
    | _, _ => none
  | digit :: rest =>
    match digit.digitValue?, groupedDigits? rest with
    | some value, some values => some (value :: values)
    | _, _ => none

/-- The natural number that grouped digits write. -/
def grouped? (text : Text) : Option Nat :=
  match groupedDigits? text with
  | none => none
  | some values =>
    if integerDigitLimit < values.length then none
    else some (values.foldl (fun number value => 10 * number + value) 0)

def toInt? (text : Text) : Option Int :=
  match text.trimBlank with
  | .char '-' :: digits => (grouped? digits).map fun number => -(number : Int)
  | .char '+' :: digits => (grouped? digits).map fun number => (number : Int)
  | digits => (grouped? digits).map fun number => (number : Int)

end Text

end SamlAdmin
