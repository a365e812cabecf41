import SamlAdmin.Text.Utf8

/-!
# Percent encoding

A URL writes an octet that may not stand for itself as a percent sign and two
hexadecimal digits.  `Percent.encode` does so for every code point that is not in a
given safe set, by way of UTF-8, and `Percent.decode` gives back the octets.
-/

namespace SamlAdmin.Percent

/-- The upper-case hexadecimal digit of a number below sixteen. -/
def hexDigit (number : Nat) : CodePoint :=
  .char (Char.ofNat (if number < 10 then 0x30 + number else 0x41 + number - 10))

def escape (octet : UInt8) : Text :=
  [.char '%', hexDigit (octet.toNat / 16), hexDigit (octet.toNat % 16)]

def isUnreserved (point : CodePoint) : Bool :=
  point.isAlpha || point.isDigit || point = .char '-' || point = .char '.' || point = .char '_'
    || point = .char '~'

/-- One code point, escaped unless it is safe. -/
def encodePoint (safe : CodePoint → Bool) (point : CodePoint) : Text :=
  if safe point then [point] else (Utf8.encodePoint point).flatMap escape

/-- A text with every code point escaped that is not safe. -/
def encode (safe : CodePoint → Bool) (text : Text) : Text := text.flatMap (encodePoint safe)

/-- A text as a single part of a path or query: only unreserved signs stay. -/
def encodeComponent (text : Text) : Text := encode isUnreserved text

/-- A text as a single part of a path or query, if UTF-8 can write it. -/
def component (text : Text) : Except Unencodable Text :=
  match Utf8.fault? text with
  | some fault => .error fault
  | none => .ok (encodeComponent text)

theorem component_eq_ok_iff {text written : Text} :
    component text = .ok written ↔
      (∀ point ∈ text, point.isScalar = true) ∧ written = encodeComponent text := by
  rw [← Utf8.fault?_eq_none_iff, component]
  cases Utf8.fault? text with
  | none => simp [eq_comm]
  | some fault => simp

/-- The octets that a text with escapes stands for.  A percent sign without two
hexadecimal digits after it stands for itself. -/
def decode : Text → List UInt8
  | [] => []
  | .char '%' :: first :: second :: rest =>
    match first.hexValue?, second.hexValue? with
    | some high, some low => UInt8.ofNat (16 * high + low) :: decode rest
    | _, _ => UInt8.ofNat '%'.toNat :: decode (first :: second :: rest)
  | point :: rest => Utf8.encodePoint point ++ decode rest

/-- The text that a part of a URL shows; what is no UTF-8 in it is replaced. -/
def shown (part : Text) : Text := Piece.replaced (Utf8.pieces false (decode part))

end SamlAdmin.Percent
