import SamlAdmin.Host.Ipv4

/-!
# IPv6 addresses

An IPv6 address is eight groups of up to four hexadecimal digits, where one run of
groups may be left out between two colons and the last two groups may be written
as an IPv4 address.  Requests go to addresses in the reading by parts
(`Ipv6.isParted`), which wants a left-out run to be at least one group and allows a
zone after a percent sign.  Web addresses are read from left to right
(`Ipv6.isScanned`).
-/

namespace SamlAdmin.Ipv6

def isGroup (part : Text) : Bool :=
  !part.isEmpty && part.length ≤ 4 && part.all CodePoint.isHexDigit

/-- The parts of an address, a closing IPv4 address counted as two groups. -/
def parts? (address : Text) : Option (List Text) :=
  let parts := address.splitOn (.char ':')
  if parts.length < 3 then none
  else
    match parts.getLast? with
    | none => none
    | some last =>
      if last.contains (.char '.') then
        if Ipv4.isStrict last then some (parts.dropLast ++ [("0" : Text), ("0" : Text)]) else none
      else some parts

/-- Whether the empty parts of an address stand for exactly one left-out run, and
the others are groups.  An empty part at an end belongs to a run that begins or
ends there. -/
def fits (parts : List Text) : Bool :=
  let inner := parts.tail.dropLast
  let startsEmpty := parts.head? = some []
  let endsEmpty := parts.getLast? = some []
  match inner.findIdx? List.isEmpty with
  | none => parts.length = 8 && parts.all isGroup
  | some position =>
    let before := parts.take (position + 1)
    let after := parts.drop (position + 2)
    let before := if startsEmpty then before.tail else before
    let after := if endsEmpty then after.dropLast else after
    (inner.filter List.isEmpty).length = 1
      && (!startsEmpty || before.isEmpty) && (!endsEmpty || after.isEmpty)
      && before.length + after.length ≤ 7 && (before ++ after).all isGroup

/-- Whether a text is an address in the reading by parts.  A zone may follow after
a percent sign; it is not empty and holds no other percent sign. -/
def isParted (text : Text) : Bool :=
  let address := text.beforeFirst (.char '%')
  let zone := text.drop address.length
  (zone.isEmpty || (2 ≤ zone.length && !zone.tail.contains (.char '%')))
    && !text.contains (.char '/')
    && match parts? address with
      | none => false
      | some parts => parts.length ≤ 9 && fits parts

/-- Whether the rest of a scanned address, of which `count` groups came before, is
an IPv4 address that ends it. -/
def endsAsIpv4 (count : Nat) (rest : Text) : Bool := count ≤ 6 && Ipv4.isStrict rest

/-- Scan the groups of an address from left to right.  `count` groups came before,
and `compressed` tells whether a run was left out among them. -/
def scan : (fuel : Nat) → (count : Nat) → (compressed : Bool) → Text → Bool
  | 0, _, _, _ => false
  | _, count, compressed, [] => compressed || count = 8
  | fuel + 1, count, compressed, text =>
    if count = 8 then false
    else
      match text with
      | .char ':' :: rest => !compressed && scan fuel (count + 1) true rest
      | text =>
        let digits := (text.take 4).takeWhile CodePoint.isHexDigit
        match text.drop digits.length with
        | [] => scan fuel (count + 1) compressed []
        | .char '.' :: _ =>
          !digits.isEmpty && endsAsIpv4 count text && (compressed || count = 6)
        | .char ':' :: rest => !rest.isEmpty && scan fuel (count + 1) compressed rest
        | _ => false

/-- Whether a text is an address in the reading from left to right. -/
def isScanned (text : Text) : Bool :=
  match text with
  | .char ':' :: .char ':' :: rest => scan (text.length + 1) 1 true rest
  | .char ':' :: _ => false
  | _ => 2 ≤ text.length && scan (text.length + 1) 0 false text

end SamlAdmin.Ipv6
