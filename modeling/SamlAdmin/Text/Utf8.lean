import SamlAdmin.Text.Unencodable

/-!
# UTF-8

`Utf8.encode` writes a text as octets, and `Utf8.fault?` says where a text has no
octets: UTF-8 proper does not write lone surrogates.  Decoding runs a small machine over the
octets that produces one piece for every character and one for every flaw, where
a flaw spans the longest beginning of a character that the octets hold.  A reader
that replaces flaws and one that stops at the first flaw both read these pieces.
-/

namespace SamlAdmin

/-- Why some octets are no text. -/
inductive FlawReason where
  | invalidStart
  | invalidContinuation
  | unexpectedEnd
  | truncated
  | outOfRange
  | notAscii
  deriving DecidableEq

def FlawReason.message : FlawReason → Text
  | .invalidStart => "invalid start byte"
  | .invalidContinuation => "invalid continuation byte"
  | .unexpectedEnd => "unexpected end of data"
  | .truncated => "truncated data"
  | .outOfRange => "code point not in range(0x110000)"
  | .notAscii => "ordinal not in range(128)"

/-- Octets that are no text: where they begin, how many they are, and the first
of them. -/
structure Flaw where
  reason : FlawReason
  start : Nat
  length : Nat
  octet : UInt8
  deriving DecidableEq

def Flaw.message (encoding : Text) (flaw : Flaw) : Text :=
  let place :=
    if flaw.length = 1 then
      ("byte 0x" : Text) ++ Text.ofHex 2 flaw.octet.toNat ++ (" in position " : Text)
        ++ Text.ofNat flaw.start
    else
      ("bytes in position " : Text) ++ Text.ofNat flaw.start ++ ("-" : Text)
        ++ Text.ofNat (flaw.start + flaw.length - 1)
  ("'" : Text) ++ encoding ++ ("' codec can't decode " : Text) ++ place ++ (": " : Text)
    ++ flaw.reason.message

/-- What a decoder finds at one place: a code point or a flaw. -/
inductive Piece where
  | point (value : CodePoint)
  | flaw (value : Flaw)
  deriving DecidableEq

namespace Piece

/-- The text of some pieces, every flaw replaced by U+FFFD. -/
def replaced (pieces : List Piece) : Text :=
  pieces.map fun
    | .point value => value
    | .flaw _ => .replacement

/-- The text of some pieces, or the first flaw among them. -/
def strict : List Piece → Except Flaw Text
  | [] => .ok []
  | .point value :: rest => (strict rest).map (value :: ·)
  | .flaw value :: _ => .error value

end Piece

namespace Utf8

/-- The octets of a code point.  A lone surrogate is written with the pattern of
three octets that its number has. -/
def encodePoint (point : CodePoint) : List UInt8 :=
  let number := point.toNat
  let continuation (shift : Nat) : UInt8 := UInt8.ofNat (0x80 + number / Nat.pow 2 shift % 64)
  if number < 0x80 then [UInt8.ofNat number]
  else if number < 0x800 then [UInt8.ofNat (0xC0 + number / 64), continuation 0]
  else if number < 0x10000 then
    [UInt8.ofNat (0xE0 + number / 4096), continuation 6, continuation 0]
  else
    [UInt8.ofNat (0xF0 + number / 262144), continuation 12, continuation 6, continuation 0]

/-- The octets of a text. -/
def encode (text : Text) : List UInt8 := text.flatMap encodePoint

/-- The first run of lone surrogates in a text, for which UTF-8 proper has no octets. -/
def fault? : Text → Option Unencodable := Unencodable.first? CodePoint.isScalar

theorem fault?_eq_none_iff {text : Text} :
    fault? text = none ↔ ∀ point ∈ text, point.isScalar = true :=
  Unencodable.first?_eq_none_iff

/-- A character whose first octets have been read: where it began and with which
octet, how many octets were read and how many are missing, the range of the next
one, and the bits collected so far. -/
structure Pending where
  start : Nat
  octet : UInt8
  taken : Nat
  missing : Nat
  low : Nat
  high : Nat
  bits : Nat

namespace Pending

/-- Whether the octets read so far can only become a surrogate. -/
def isHalf (pending : Pending) : Bool :=
  pending.taken = 2 && pending.missing = 1 && 0x360 ≤ pending.bits && pending.bits < 0x380

/-- The flaw of a character that does not go on.  What can only become a surrogate
counts as broken off after its first octet. -/
def flaw (pending : Pending) (reason : FlawReason) : Piece :=
  if pending.isHalf then .flaw ⟨.invalidContinuation, pending.start, 1, pending.octet⟩
  else .flaw ⟨reason, pending.start, pending.taken, pending.octet⟩

end Pending

/-- What an octet begins: a code point, a flaw, or a character with more octets.
With `halves`, surrogates are accepted as code points. -/
def begin (halves : Bool) (offset : Nat) (octet : UInt8) : Piece ⊕ Pending :=
  let number := octet.toNat
  let open_ (missing low high bits : Nat) : Piece ⊕ Pending :=
    .inr ⟨offset, octet, 1, missing, low, high, bits⟩
  if number < 0x80 then .inl (.point (.char (Char.ofNat number)))
  else if number < 0xC2 then .inl (.flaw ⟨.invalidStart, offset, 1, octet⟩)
  else if number < 0xE0 then open_ 1 0x80 0xBF (number - 0xC0)
  else if number = 0xE0 then open_ 2 0xA0 0xBF 0
  else if number = 0xED then open_ 2 0x80 (if halves then 0xBF else 0x9F) 0xD
  else if number < 0xF0 then open_ 2 0x80 0xBF (number - 0xE0)
  else if number = 0xF0 then open_ 3 0x90 0xBF 0
  else if number < 0xF4 then open_ 3 0x80 0xBF (number - 0xF0)
  else if number = 0xF4 then open_ 3 0x80 0x8F 4
  else .inl (.flaw ⟨.invalidStart, offset, 1, octet⟩)

/-- Run the machine over the octets from an offset on, with the character that is
being read. -/
def run (halves : Bool) : Nat → Option Pending → List UInt8 → List Piece
  | _, none, [] => []
  | _, some pending, [] => [pending.flaw .unexpectedEnd]
  | offset, none, octet :: rest =>
    match begin halves offset octet with
    | .inl piece => piece :: run halves (offset + 1) none rest
    | .inr pending => run halves (offset + 1) (some pending) rest
  | offset, some pending, octet :: rest =>
    let number := octet.toNat
    if pending.low ≤ number ∧ number ≤ pending.high then
      let bits := 64 * pending.bits + number % 64
      if pending.missing ≤ 1 then
        .point ((CodePoint.ofNat? bits).getD .replacement) :: run halves (offset + 1) none rest
      else
        run halves (offset + 1)
          (some { pending with
            taken := pending.taken + 1, missing := pending.missing - 1,
            low := 0x80, high := 0xBF, bits })
          rest
    else
      pending.flaw .invalidContinuation ::
        match begin halves offset octet with
        | .inl piece => piece :: run halves (offset + 1) none rest
        | .inr next => run halves (offset + 1) (some next) rest

/-- The pieces of some octets. -/
def pieces (halves : Bool) (octets : List UInt8) : List Piece := run halves 0 none octets

end Utf8

end SamlAdmin
