import SamlAdmin.Text

/-!
# IPv4 addresses

Two readings of an IPv4 address exist.  The strict one is four decimal octets.  The
lenient one is that of web addresses: one to four numbers, each in decimal, octal
or hexadecimal, of which the last fills all the octets that the others leave.

`Ipv4.isStrict` decides the first.  For the second, `Ipv4.endsInNumber` tells which
hosts have to be addresses, and `Ipv4.isLenient` whether such a host is one.
-/

namespace SamlAdmin.Ipv4

def isOctet (part : Text) : Bool :=
  !part.isEmpty && part.all CodePoint.isDigit && part.length ≤ 3
    && (part.length = 1 || part.head? ≠ some (.char '0')) && Text.digitsValue part ≤ 255

/-- Whether a host is four decimal octets with points between them. -/
def isStrict (host : Text) : Bool :=
  let parts := host.splitOn (.char '.')
  parts.length = 4 && parts.all isOctet

/-- Whether a host has the outline of an address: four runs of digits with one code
point of any kind between them. -/
def hasOutline (host : Text) : Bool :=
  let runs := host.splitOnP (!·.isDigit)
  runs.all (!·.isEmpty) && runs.length ≤ 4
    && 4 ≤ runs.length + runs.foldr (fun run count => (run.length - 1) / 2 + count) 0

/-- The number that digits of a base write. -/
def valueIn (base : Nat) (digits : Text) : Option Nat :=
  digits.foldl (fun value digit =>
    match value, digit.hexValue? with
    | some value, some digit => if digit < base then some (base * value + digit) else none
    | _, _ => none) (some 0)

/-- The number that a part of a lenient address writes: hexadecimal after `0x`,
octal after a leading zero, and decimal otherwise. -/
def number? : Text → Option Nat
  | [] => none
  | .char '0' :: .char 'x' :: digits => valueIn 16 digits
  | .char '0' :: .char 'X' :: digits => valueIn 16 digits
  | .char '0' :: digit :: digits => valueIn 8 (digit :: digits)
  | digits => valueIn 10 digits

/-- The parts of a host, without the empty one after a closing point. -/
def parts (host : Text) : List Text :=
  let parts := host.splitOn (.char '.')
  if parts.getLast? = some [] then parts.dropLast else parts

/-- Whether the last part of a host is a number, so that the host has to be an
address. -/
def endsInNumber (host : Text) : Bool :=
  match (parts host).getLast? with
  | none => false
  | some part => (!part.isEmpty && part.all CodePoint.isDigit) || (number? part).isSome

/-- Whether the numbers of a lenient address fit: the last one into the octets that
are left, every other one into an octet. -/
def fits : (left : Nat) → List Nat → Bool
  | _, [] => false
  | left, [last] => last < Nat.pow 256 left
  | left, octet :: rest => octet < 256 && fits (left - 1) rest

/-- Whether a host is a lenient address. -/
def isLenient (host : Text) : Bool :=
  let parts := parts host
  parts.length ≤ 4 && match parts.mapM number? with
    | none => false
    | some numbers => fits 4 numbers

end SamlAdmin.Ipv4
