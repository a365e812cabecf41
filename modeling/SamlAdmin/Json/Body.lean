import SamlAdmin.Json.Reader
import SamlAdmin.Text.Wide

/-!
# JSON bodies

A body is a list of octets.  Its encoding is read off a byte order mark or off the
zeros among the first four octets, as every JSON text begins with an ASCII
character; surrogates without a partner are accepted in every encoding.
-/

namespace SamlAdmin.Json

/-- An encoding, with how many octets its mark takes, as the beginning of a body
shows it. -/
def detect : List UInt8 → Encoding × Nat
  | 0x00 :: 0x00 :: 0xFE :: 0xFF :: _ => (.utf32 true, 4)
  | 0xFF :: 0xFE :: 0x00 :: 0x00 :: _ => (.utf32 false, 4)
  | 0xFE :: 0xFF :: _ => (.utf16 true, 2)
  | 0xFF :: 0xFE :: _ => (.utf16 false, 2)
  | 0xEF :: 0xBB :: 0xBF :: _ => (.utf8, 3)
  | first :: second :: third :: fourth :: _ =>
    if first = 0 then (if second = 0 then .utf32 true else .utf16 true, 0)
    else if second = 0 then (if third = 0 ∧ fourth = 0 then .utf32 false else .utf16 false, 0)
    else (.utf8, 0)
  | [first, second] =>
    if first = 0 then (.utf16 true, 0)
    else if second = 0 then (.utf16 false, 0)
    else (.utf8, 0)
  | _ => (.utf8, 0)

/-- The order of octets that a flag stands for. -/
def orderOf (big : Bool) : Wide.Order := if big then .big else .little

/-- The text of a body. -/
def decode (octets : List UInt8) : Except Fault Text :=
  let (encoding, mark) := detect octets
  let marked := octets.drop mark
  let decoded := match encoding with
    | .utf8 => Piece.strict (Utf8.pieces true marked)
    | .utf16 big => Wide.strict16 (orderOf big) mark marked
    | .utf32 big => Piece.strict (Wide.pieces32 (orderOf big) mark marked)
  match decoded with
  | .ok text => .ok text
  | .error flaw => .error (.undecodable encoding flaw)

/-- The value that a body holds. -/
def readBody (octets : List UInt8) : Except Fault Value :=
  match decode octets with
  | .error fault => .error fault
  | .ok text => read text

end SamlAdmin.Json
