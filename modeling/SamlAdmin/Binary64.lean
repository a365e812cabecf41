import SamlAdmin.Text

/-!
# Binary floating point with exact arithmetic

Numbers of a JSON body and time limits are binary floating point numbers with 53
bits.  They are kept here as a significand and a power of two, so that reading a
decimal, writing the shortest decimal that reads back, and comparing with zero
and one are computations on natural numbers and nothing is left to the machine.

* `Binary64.ofDecimal` rounds a decimal to the nearest number, ties to even.
* `Binary64.shortest` is the shortest decimal that rounds back, nearest first.
* `Binary64.toText` writes it: positionally while the first digit stands between
  10⁻⁴ and 10¹⁵, with an exponent otherwise.
-/

namespace SamlAdmin

/-- A binary floating point number.  A finite number is its significand times two
to its exponent; the significand has 53 bits, or fewer with the least exponent
`-1074`. -/
inductive Binary64 where
  | nan
  | infinite (negative : Bool)
  | finite (negative : Bool) (significand : Nat) (exponent : Int)
  deriving DecidableEq, Inhabited

namespace Binary64

def leastExponent : Int := -1074

def greatestExponent : Int := 971

/-- The least significand with all 53 bits. -/
def leastFull : Nat := 0x10000000000000

def zero (negative : Bool) : Binary64 := .finite negative 0 leastExponent

/-- The quotient of two natural numbers rounded to the nearest one, a tie to the
even neighbour. -/
def roundHalfEven (numerator denominator : Nat) : Nat :=
  let quotient := numerator / denominator
  let twice := 2 * (numerator % denominator)
  if twice < denominator then quotient
  else if denominator < twice then quotient + 1
  else if quotient % 2 = 0 then quotient else quotient + 1

/-- A positive ratio divided by a power of two, as numerator and denominator. -/
def scaleDown (numerator denominator : Nat) (power : Int) : Nat × Nat :=
  match power with
  | .ofNat up => (numerator, denominator * Nat.pow 2 up)
  | .negSucc down => (numerator * Nat.pow 2 (down + 1), denominator)

/-- The number nearest to a ratio of natural numbers. -/
def ofRatio (negative : Bool) (numerator denominator : Nat) : Binary64 :=
  if numerator = 0 then zero negative
  else
    let guess : Int := (numerator.log2 : Int) - (denominator.log2 : Int) - 52
    let (top, bottom) := scaleDown numerator denominator guess
    let tight := if top < leastFull * bottom then guess - 1 else guess
    let exponent := max tight leastExponent
    let (top, bottom) := scaleDown numerator denominator exponent
    let rounded := roundHalfEven top bottom
    let (significand, exponent) :=
      if rounded = 2 * leastFull then (leastFull, exponent + 1) else (rounded, exponent)
    if exponent > greatestExponent then .infinite negative
    else .finite negative significand exponent

/-- The number nearest to `digits * 10 ^ power`.  Powers that lie far outside the
range are decided by the place of the first digit alone. -/
def ofDecimal (negative : Bool) (digits : Nat) (power : Int) : Binary64 :=
  if digits = 0 then zero negative
  else
    let place : Int := (Nat.toDigits 10 digits).length + power
    if place > 310 then .infinite negative
    else if place < -330 then zero negative
    else match power with
      | .ofNat up => ofRatio negative (digits * Nat.pow 10 up) 1
      | .negSucc down => ofRatio negative digits (Nat.pow 10 (down + 1))

/-- The number nearest to an integer. -/
def ofInt (value : Int) : Binary64 := ofDecimal (value < 0) value.natAbs 0

def isZero : Binary64 → Bool
  | .finite _ significand _ => significand = 0
  | _ => false

/-- The integer that a number is equal to, if it has no fraction. -/
def toInt? : Binary64 → Option Int
  | .finite negative significand exponent =>
    let (top, bottom) := scaleDown significand 1 (-exponent)
    if top % bottom = 0 then
      some (if negative then -(top / bottom : Nat) else (top / bottom : Nat))
    else none
  | _ => none

/-- The shortest decimal, as digits and a power of ten, among those that lie
closer to a finite number than to its neighbours; of two such decimals the nearer
one. -/
def shortest (significand : Nat) (exponent : Int) : Nat × Int :=
  let narrow := significand = leastFull && exponent != leastExponent
  let (value, unit) := scaleDown (4 * significand) 1 (2 - exponent)
  let (low, _) := scaleDown (4 * significand - if narrow then 1 else 2) 1 (2 - exponent)
  let (high, _) := scaleDown (4 * significand + 2) 1 (2 - exponent)
  let closed := significand % 2 = 0
  let place : Int := (Nat.toDigits 10 (value * Nat.pow 10 400 / unit)).length - 401
  let inside (digits : Nat) (grid : Int) : Bool :=
    let (least, point, most) := match grid with
      | .ofNat up => (low, digits * Nat.pow 10 up * unit, high)
      | .negSucc down => (low * Nat.pow 10 (down + 1), digits * unit, high * Nat.pow 10 (down + 1))
    if closed then least ≤ point && point ≤ most else least < point && point < most
  let attempt (count : Nat) : Option (Nat × Int) :=
    let grid := place - count
    let (top, bottom) := match grid with
      | .ofNat up => (value, unit * Nat.pow 10 up)
      | .negSucc down => (value * Nat.pow 10 (down + 1), unit)
    let below := top / bottom
    let nearer := if 2 * top ≤ (2 * below + 1) * bottom then [below, below + 1]
      else [below + 1, below]
    (nearer.find? (inside · grid)).map fun digits => (digits, grid)
  ((List.range 17).findSome? attempt).getD (significand, 0)

/-- The words for what is not finite. -/
structure Words where
  nan : Text
  infinity : Text

/-- The words of messages. -/
def Words.plain : Words := ⟨"nan", "inf"⟩

/-- The words of JSON texts. -/
def Words.json : Words := ⟨"NaN", "Infinity"⟩

/-- The first exponent that is too small to be written positionally. -/
def exponentialBelow : Int := -4

/-- The first exponent that is too large to be written positionally. -/
def exponentialFrom : Int := 16

/-- An exponent with its sign and at least two digits. -/
def exponentText (exponent : Int) : Text :=
  let digits := Nat.toDigits 10 exponent.natAbs
  Text.ofChars ((if exponent < 0 then '-' else '+') ::
    (List.replicate (2 - digits.length) '0' ++ digits))

/-- The text of decimal digits whose first one stands at a given power of ten. -/
def decimalText (digits : List Char) (place : Int) : Text :=
  Text.ofChars <|
    if exponentialBelow ≤ place ∧ place < exponentialFrom then
      match place with
      | .ofNat ahead =>
        let whole := digits.take (ahead + 1)
        let fraction := digits.drop (ahead + 1)
        whole ++ List.replicate (ahead + 1 - whole.length) '0' ++ '.' ::
          (if fraction.isEmpty then ['0'] else fraction)
      | .negSucc behind => '0' :: '.' :: (List.replicate behind '0' ++ digits)
    else
      match digits with
      | [] => []
      | [digit] => [digit]
      | digit :: fraction => digit :: '.' :: fraction

/-- The shortest text that reads back as the number. -/
def toText (words : Words) : Binary64 → Text
  | .nan => words.nan
  | .infinite negative => if negative then .char '-' :: words.infinity else words.infinity
  | .finite negative significand exponent =>
    let sign : Text := if negative then "-" else ""
    if significand = 0 then sign ++ ("0.0" : Text)
    else
      let (digits, power) := shortest significand exponent
      let written := Nat.toDigits 10 digits
      let place : Int := power + written.length - 1
      let kept := (written.reverse.dropWhile (· = '0')).reverse
      let body := decimalText kept place
      if exponentialBelow ≤ place ∧ place < exponentialFrom then sign ++ body
      else sign ++ body ++ .char 'e' :: exponentText place

end Binary64

end SamlAdmin
