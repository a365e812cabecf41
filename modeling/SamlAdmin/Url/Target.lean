import SamlAdmin.Host.Ipv6
import SamlAdmin.Host.Registered
import SamlAdmin.Text.Integer
import SamlAdmin.Text.Literal
import SamlAdmin.Url.Percent

/-!
# The target of a request

The address of a request is put together from an endpoint and a path.  Before it is
sent it is taken apart, each part is brought to its final spelling, and the parts
are checked again whenever one of them is replaced.  `Target.parse` reads an
address, `Target.withQuery`, `Target.withHost` and `Target.withFragment` replace a part
of it, and `Target.toText` writes it.

Final spelling means: the scheme and the host in lower case, a port only where it
is not the usual one of the scheme, a path without dot segments, and every sign
escaped that its part may not hold.
-/

namespace SamlAdmin

/-- An address in its parts. -/
structure Target where
  scheme : Text
  userinfo : Text
  host : Text
  port : Option Int
  path : Text
  query : Option Text
  fragment : Option Text
  deriving DecidableEq, Inhabited

namespace Target

/-- Why a text is no address. -/
inductive Fault where
  | tooLong
  | partTooLong (part : Text)
  | control (point : CodePoint) (position : Nat)
  | ipv4 (host : Text)
  | ipv6 (host : Text)
  | hostName (host : Text)
  | port (digits : Text)
  | relativeDoubleSlash
  | relativeColon
  | rootlessPath
  | partControl (part : Text) (point : CodePoint) (position : Nat)
  | unencodable (fault : Unencodable)
  deriving DecidableEq

def Fault.message : Fault → Text
  | .tooLong => "URL too long"
  | .partTooLong part => ("URL component '" : Text) ++ part ++ ("' too long" : Text)
  | .control point position =>
    ("Invalid non-printable ASCII character in URL, " : Text) ++ Text.quoted [point]
      ++ (" at position " : Text) ++ Text.ofNat position ++ ("." : Text)
  | .ipv4 host => ("Invalid IPv4 address: " : Text) ++ host.quoted
  | .ipv6 host => ("Invalid IPv6 address: " : Text) ++ host.quoted
  | .hostName host => ("Invalid IDNA hostname: " : Text) ++ host.quoted
  | .port digits => ("Invalid port: " : Text) ++ digits.quoted
  | .relativeDoubleSlash => "Relative URLs cannot have a path starting with '//'"
  | .relativeColon => "Relative URLs cannot have a path starting with ':'"
  | .rootlessPath => "For absolute URLs, path must be empty or begin with '/'"
  | .partControl part point position =>
    ("Invalid non-printable ASCII character in URL " : Text) ++ part ++ (" component, " : Text)
      ++ Text.quoted [point] ++ (" at position " : Text) ++ Text.ofNat position ++ ("." : Text)
  | .unencodable fault => fault.utf8Message

/-- The most code points that an address, or one of its parts, may have. -/
def longest : Nat := 65536

def isControl (point : CodePoint) : Bool := point.toNat < 0x20 || point.toNat = 0x7F

/-- Whether a code point is a printable ASCII character other than the given
ones. -/
def isPrintableExcept (others : List Char) : CodePoint → Bool
  | .char value => 0x20 ≤ value.toNat && value.toNat < 0x7F && !others.contains value
  | .surrogate _ => false

def isPathSign : CodePoint → Bool :=
  isPrintableExcept [' ', '"', '#', '<', '>', '?', '\x60', '\x7b', '\x7d']

def isQuerySign : CodePoint → Bool := isPrintableExcept [' ', '"', '#', '<', '>']

def isFragmentSign : CodePoint → Bool := isPrintableExcept [' ', '"', '<', '>', '\x60']

def isUserinfoSign : CodePoint → Bool :=
  isPrintableExcept [' ', '"', '#', '<', '>', '?', '\x60', '\x7b', '\x7d', '/', ';', '=', '@', '[',
    '\\', ']', '^', '|']

def isHostSign (point : CodePoint) : Bool :=
  Percent.isUnreserved point || ("!$&'()*+,;=\"\x60\x7b\x7d%|\\" : Text).contains point

/-- An address cut into its parts, before any of them is looked at. -/
structure Parts where
  scheme : Text
  authority : Text
  path : Text
  query : Option Text
  fragment : Option Text

/-- Cut a text in two at the first occurrence of a sign; the sign is dropped. -/
def cutAt (sign : CodePoint) (text : Text) : Text × Option Text :=
  let before := text.beforeFirst sign
  if before.length < text.length then (before, some (text.drop (before.length + 1)))
  else (before, none)

def isSchemeName : Text → Bool
  | [] => true
  | first :: rest => first.isAlpha && rest.all fun point => point.isAlpha || point.isDigit
      || point = .char '+' || point = .char '.' || point = .char '-'

def cutScheme (text : Text) : Text × Text :=
  match cutAt (.char ':') text with
  | (scheme, some rest) => if isSchemeName scheme then (scheme, rest) else ([], text)
  | _ => ([], text)

def Parts.ofText (text : Text) : Parts :=
  let (scheme, rest) := cutScheme text
  let (rest, fragment) := cutAt (.char '#') rest
  let (rest, query) := cutAt (.char '?') rest
  match rest with
  | .char '/' :: .char '/' :: rest =>
    let authority := Text.beforeFirst (.char '/') rest
    ⟨scheme, authority, rest.drop authority.length, query, fragment⟩
  | path => ⟨scheme, [], path, query, fragment⟩

/-- Cut an authority into the user, the host and the port. -/
def cutAuthority (authority : Text) : Text × Text × Text :=
  let place := authority.afterLast (.char '@')
  let userinfo := authority.take (authority.length - place.length - 1)
  let backwards := place.reverse
  let bracketed : Bool := place.head? = some (.char '[') && place.contains (.char ']')
  let host := if bracketed then (backwards.dropWhile (· ≠ .char ']')).reverse
    else place.beforeFirst (.char ':')
  let port := match place.drop host.length with
    | .char ':' :: port => port
    | port => port
  (userinfo, host, port)

/-- The final spelling of a host. -/
def hostOf (host : Text) : Except Fault Text :=
  if Ipv4.hasOutline host then
    if Ipv4.isStrict host then .ok host else .error (.ipv4 host)
  else if host.head? = some (.char '[') && host.getLast? = some (.char ']') then
    let address := host.tail.dropLast
    if Ipv6.isParted address then .ok address else .error (.ipv6 host)
  else if host.all CodePoint.isAscii then .ok (Percent.encode isHostSign host.asciiLower)
  else match Host.registeredName? host with
    | some name => .ok name
    | none => .error (.hostName host)

/-- The usual ports of schemes. -/
def usualPorts : List (Text × Int) :=
  [("ftp", 21), ("http", 80), ("https", 443), ("ws", 80), ("wss", 443)]

/-- The port that is to be written for a scheme. -/
def portOf (scheme digits : Text) : Except Fault (Option Int) :=
  if digits.isEmpty then .ok none
  else match Text.toInt? digits with
    | none => .error (.port digits)
    | some port => .ok (if usualPorts.contains (scheme, port) then none else some port)

/-- One segment put on top of those that are kept, the last one first: a single dot
adds nothing, two dots take the last one away unless only the root is left. -/
def keepSegment (kept : List Text) (segment : Text) : List Text :=
  if segment = ("." : Text) then kept
  else if segment = (".." : Text) then if kept = [] ∨ kept = [[]] then kept else kept.tail
  else segment :: kept

/-- A path without its dot segments. -/
def removeDots (path : Text) : Text :=
  Text.join [.char '/'] ((path.splitOn (.char '/')).foldl keepSegment []).reverse

/-- The final spelling of a part: every sign is escaped that it may not hold.  Signs
are escaped one by one, so a lone surrogate is reported without its place. -/
def spell (isSign : CodePoint → Bool) (part : Text) : Except Fault Text :=
  match part.find? (!·.isScalar) with
  | some point => .error (.unencodable ⟨[point], 0⟩)
  | none => .ok (Percent.encode isSign part)

/-- The final spelling of a part that may be missing. -/
def spell? (isSign : CodePoint → Bool) : Option Text → Except Fault (Option Text)
  | none => .ok none
  | some part => (spell isSign part).map some

/-- Bring the parts of an address to their final spelling. -/
def ofParts (parts : Parts) : Except Fault Target := do
  let (userinfo, host, digits) := cutAuthority parts.authority
  let userinfo ← spell isUserinfoSign userinfo
  let host ← hostOf host
  let port ← portOf parts.scheme digits
  let hasAuthority := !userinfo.isEmpty || !host.isEmpty || port.isSome
  let isAbsolute := !parts.scheme.isEmpty || hasAuthority
  if !isAbsolute && (parts.path.afterPrefix? ("//" : Text)).isSome then .error .relativeDoubleSlash
  if !isAbsolute && parts.path.head? = some (.char ':') then .error .relativeColon
  let path ← spell isPathSign (if isAbsolute then removeDots parts.path else parts.path)
  let query ← spell? isQuerySign parts.query
  let fragment ← spell? isFragmentSign parts.fragment
  .ok { scheme := parts.scheme.asciiLower, userinfo, host, port, path, query, fragment }

/-- A host as it is written before a port. -/
def bracketed (host : Text) : Text :=
  if host.contains (.char ':') then ("[" : Text) ++ host ++ ("]" : Text) else host

/-- The host and the port of an address. -/
def place (target : Target) : Text :=
  bracketed target.host
    ++ match target.port with
      | none => []
      | some port => .char ':' :: Text.ofInt port

def authority (target : Target) : Text :=
  (if target.userinfo.isEmpty then [] else target.userinfo ++ ("@" : Text)) ++ target.place

/-- The parts of an address that is to be checked again. -/
def toParts (target : Target) : Parts :=
  ⟨target.scheme, target.authority, target.path, target.query, target.fragment⟩

/-- The parts of an address with their names. -/
def Parts.named (parts : Parts) : List (Text × Text) :=
  [("scheme", parts.scheme), ("authority", parts.authority), ("path", parts.path),
   ("query", parts.query.getD []), ("fragment", parts.fragment.getD [])]

/-- What is made of named parts, unless one of them is too long. -/
def unlessLong (named : List (Text × Text)) (made : Except Fault Target) : Except Fault Target :=
  match named.find? fun (_, part) => longest < part.length with
  | some (name, _) => .error (.partTooLong name)
  | none => made

/-- Check that no part of an address is too long, and bring the parts to their final
spelling. -/
def recheck (parts : Parts) : Except Fault Target := unlessLong parts.named (ofParts parts)

/-- Check an address and bring it to its final spelling. -/
def read (text : Text) : Except Fault Target :=
  if longest < text.length then .error .tooLong
  else match text.findIdx? isControl with
    | some position => .error (.control (text.getD position default) position)
    | none => ofParts (Parts.ofText text)

/-- Read the address of a request.  One without a scheme or without a host stands
for a path from the root. -/
def parse (text : Text) : Except Fault Target := do
  let target ← read text
  if !target.scheme.isEmpty && !target.host.isEmpty then .ok target
  else
    let rooted := .char '/' :: target.path.dropWhile (· = .char '/')
    recheck ⟨[], [], rooted, target.query, none⟩

/-- Replace the query of an address. -/
def withQuery (query : Option Text) (target : Target) : Except Fault Target :=
  recheck { target.toParts with query }

/-- Give an address a host.  Behind a host, a path begins at the root. -/
def withHost (host : Text) (target : Target) : Except Fault Target :=
  let placed := { target with host }
  unlessLong (target.toParts.named ++ [(("host" : Text), bracketed host)]) <|
    if !placed.authority.isEmpty && !target.path.isEmpty && target.path.head? ≠ some (.char '/')
    then .error .rootlessPath
    else ofParts placed.toParts

/-- Give an address a fragment.  Other than in the text of an address, a control in it is
found after parts that are too long. -/
def withFragment (fragment : Text) (target : Target) : Except Fault Target :=
  let parts := { target.toParts with fragment }
  unlessLong parts.named <|
    match fragment.findIdx? isControl with
    | some position => .error (.partControl "fragment" (fragment.getD position default) position)
    | none => ofParts parts

def toText (target : Target) : Text :=
  let authority := target.authority
  (if target.scheme.isEmpty then [] else target.scheme ++ (":" : Text))
    ++ (if authority.isEmpty then [] else ("//" : Text) ++ authority)
    ++ target.path
    ++ (match target.query with
      | none => []
      | some query => .char '?' :: query)
    ++ (match target.fragment with
      | none => []
      | some fragment => .char '#' :: fragment)

end Target

end SamlAdmin
