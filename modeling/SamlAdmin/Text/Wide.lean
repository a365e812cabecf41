import SamlAdmin.Text.Utf8

/-!
# UTF-16 and UTF-32

Text in units of two or four octets, in either order of octets.  The octets are
first grouped into numbers; in UTF-16 a high surrogate that is followed by a low
one is then joined to one character, and a surrogate without a partner stays a
code point of its own.
-/

namespace SamlAdmin.Wide

/-- The order of the octets of a unit. -/
inductive Order where
  | little
  | big
  deriving DecidableEq

/-- The number that the octets of a unit write. -/
def unit (order : Order) (octets : List UInt8) : Nat :=
  let ordered := match order with
    | .big => octets
    | .little => octets.reverse
  ordered.foldl (fun number (octet : UInt8) => 256 * number + octet.toNat) 0

/-- Join each high surrogate with the low one that follows it. -/
def pair : List CodePoint → Text
  | .surrogate high :: .surrogate low :: rest =>
    if high.toNat < 0x400 ∧ 0x400 ≤ low.toNat then
      .char (Char.ofNat (0x10000 + 0x400 * high.toNat + (low.toNat - 0x400))) :: pair rest
    else .surrogate high :: pair (.surrogate low :: rest)
  | point :: rest => point :: pair rest
  | [] => []

/-- The units of two octets, and whether an odd octet is left. -/
def units16 (order : Order) : List UInt8 → List CodePoint × Option UInt8
  | first :: second :: rest =>
    let point := (CodePoint.ofNat? (unit order [first, second])).getD .replacement
    let (points, left) := units16 order rest
    (point :: points, left)
  | [last] => ([], some last)
  | [] => ([], none)

/-- Read UTF-16 that begins at an offset.  Surrogates without a partner are
accepted. -/
def strict16 (order : Order) (offset : Nat) (octets : List UInt8) : Except Flaw Text :=
  match units16 order octets with
  | (points, none) => .ok (pair points)
  | (points, some last) => .error ⟨.truncated, offset + 2 * points.length, 1, last⟩

/-- Read UTF-16, every surrogate without a partner and an odd octet replaced.  An
odd octet after a high surrogate belongs to the same broken character. -/
def replaced16 (order : Order) (octets : List UInt8) : Text :=
  let (points, left) := units16 order octets
  let text := pair points
  let whole := text.map fun
    | .surrogate _ => .replacement
    | point => point
  match left, text.getLast? with
  | none, _ => whole
  | some _, some (.surrogate offset) =>
    if offset.toNat < 0x400 then whole else whole ++ [.replacement]
  | some _, _ => whole ++ [.replacement]

/-- The pieces of UTF-32 that begins at an offset. -/
def pieces32 (order : Order) : Nat → List UInt8 → List Piece
  | offset, first :: second :: third :: fourth :: rest =>
    (match CodePoint.ofNat? (unit order [first, second, third, fourth]) with
      | some point => .point point
      | none => .flaw ⟨.outOfRange, offset, 4, first⟩) :: pieces32 order (offset + 4) rest
  | _, [] => []
  | offset, first :: rest => [.flaw ⟨.truncated, offset, 1 + rest.length, first⟩]

/-- The order of octets that a mark at the beginning of UTF-16 gives, with the
octets after it. -/
def mark16? : List UInt8 → Option (Order × List UInt8)
  | 0xFF :: 0xFE :: rest => some (.little, rest)
  | 0xFE :: 0xFF :: rest => some (.big, rest)
  | _ => none

/-- The order of octets that a mark at the beginning of UTF-32 gives, with the
octets after it. -/
def mark32? : List UInt8 → Option (Order × List UInt8)
  | 0xFF :: 0xFE :: 0x00 :: 0x00 :: rest => some (.little, rest)
  | 0x00 :: 0x00 :: 0xFE :: 0xFF :: rest => some (.big, rest)
  | _ => none

end SamlAdmin.Wide
