import SamlAdmin.Text

/-!
# Base64

Octets in signs that every header can carry: three octets make four signs, and equals
signs fill up what an incomplete group leaves.
-/

namespace SamlAdmin.Base64

/-- The sign for six bits. -/
def sign (number : Nat) : CodePoint :=
  .char <| Char.ofNat <|
    if number < 26 then 0x41 + number
    else if number < 52 then 0x61 + (number - 26)
    else if number < 62 then 0x30 + (number - 52)
    else if number = 62 then 0x2B
    else 0x2F

/-- The filler of an incomplete group. -/
def filler : CodePoint := .char '='

/-- Write octets in signs. -/
def encode : List UInt8 → Text
  | first :: second :: third :: rest =>
    let bits := 0x10000 * first.toNat + 0x100 * second.toNat + third.toNat
    sign (bits / 0x40000) :: sign (bits / 0x1000 % 64) :: sign (bits / 64 % 64) :: sign (bits % 64)
      :: encode rest
  | [first, second] =>
    let bits := 0x400 * first.toNat + 4 * second.toNat
    [sign (bits / 0x1000), sign (bits / 64 % 64), sign (bits % 64), filler]
  | [first] =>
    let bits := 16 * first.toNat
    [sign (bits / 64), sign (bits % 64), filler, filler]
  | [] => []

end SamlAdmin.Base64
