import SamlAdmin.Host.Domain
import SamlAdmin.Host.Ipv6
import SamlAdmin.Text.Blank
import SamlAdmin.Url.Percent

/-!
# Which texts are web addresses

The addresses in a configuration have to be absolute URLs in the sense of the URL
standard.  `Url.check` reads a text as that standard does and reports the first
reason to refuse it; a text that is accepted is kept as it is.

What is checked depends on the scheme.  The special schemes need a host, which is a
domain name or an IP address.  After `file:` a host may be missing, and after every
other scheme a host is any text without a few forbidden signs.
-/

namespace SamlAdmin.Url

/-- Why a text is no absolute URL. -/
inductive Refusal where
  | notUnicode
  | relative
  | emptyHost
  | port
  | ipv4
  | ipv6
  | domainName
  | domainCharacter
  deriving DecidableEq

/-- The words of a refusal, after the sentence that all of them begin with. -/
def Refusal.reason : Refusal → Text
  | .notUnicode => "unable to parse raw data as a unicode string"
  | .relative => "relative URL without a base"
  | .emptyHost => "empty host"
  | .port => "invalid port number"
  | .ipv4 => "invalid IPv4 address"
  | .ipv6 => "invalid IPv6 address"
  | .domainName => "invalid international domain name"
  | .domainCharacter => "invalid domain character"

def Refusal.message (refusal : Refusal) : Text :=
  (if refusal = .notUnicode then "Input should be a valid string, "
    else "Input should be a valid URL, ") ++ refusal.reason

/-- The classes of schemes that are read differently. -/
inductive SchemeClass where
  | file
  | special
  | other
  deriving DecidableEq

/-- The class of a scheme in lower case. -/
def SchemeClass.ofScheme (scheme : Text) : SchemeClass :=
  let special : List Text := ["http", "https", "ws", "wss", "ftp"]
  if scheme = ("file" : Text) then .file
  else if special.contains scheme then .special
  else .other

/-- Whether a code point is trimmed from the ends of an address. -/
def isOuterBlank (point : CodePoint) : Bool := point.toNat ≤ 0x20

/-- Whether a code point is passed over inside an address. -/
def isPassedOver (point : CodePoint) : Bool :=
  point = .char '\t' || point = .char '\n' || point = .char '\r'

/-- The scheme of an address, in lower case, with what follows its colon. -/
def cutScheme? (text : Text) : Option (SchemeClass × Text) :=
  let scheme := text.takeWhile fun point => point.isAlpha || point.isDigit || point = .char '+'
    || point = .char '-' || point = .char '.'
  match scheme, text.drop scheme.length with
  | first :: _, .char ':' :: rest =>
    if first.isAlpha then some (.ofScheme (Text.asciiLower scheme), rest) else none
  | _, _ => none

/-- Whether a code point ends the authority of an address. -/
def endsAuthority (scheme : SchemeClass) (point : CodePoint) : Bool :=
  point = .char '/' || point = .char '?' || point = .char '#'
    || (scheme ≠ .other && point = .char '\\')

/-- Pass over the user of an authority.  The answer is whether a user or a password
was given, with the text after the sign that ends them. -/
def afterUser (scheme : SchemeClass) (text : Text) : Except Refusal (Bool × Text) :=
  let authority : Text := text.takeWhile (!endsAuthority scheme ·)
  if authority.contains (.char '@') then
    let user := authority.take (authority.length - (authority.afterLast (.char '@')).length - 1)
    let rest := text.drop (user.length + 1)
    if user.isEmpty then
      match rest with
      | [] => .ok (false, rest)
      | point :: _ => if endsAuthority scheme point then .error .emptyHost else .ok (false, rest)
    else .ok (user ≠ [.char ':'], rest)
  else .ok (false, text)

/-- The host at the beginning of a text.  It ends before a colon that stands outside
brackets, and where the authority ends. -/
def hostText (scheme : SchemeClass) : (inBrackets : Bool) → Text → Text
  | _, [] => []
  | inBrackets, point :: rest =>
    if (point = .char ':' && !inBrackets) || endsAuthority scheme point then []
    else if point = .char '[' then point :: hostText scheme true rest
    else if point = .char ']' then point :: hostText scheme false rest
    else point :: hostText scheme inBrackets rest

/-- Check a host in brackets. -/
def checkBracketed (host : Text) : Except Refusal Unit :=
  if host.getLast? = some (.char ']') && Ipv6.isScanned host.tail.dropLast then .ok ()
  else .error .ipv6

/-- Check the host of a special scheme: an address in brackets, a domain name, or an
IPv4 address when its last part is a number. -/
def checkDomain (host : Text) : Except Refusal Unit :=
  if host.head? = some (.char '[') then checkBracketed host
  else
    match Host.domainName? (Piece.replaced (Utf8.pieces false (Percent.decode host))) with
    | none => .error .domainName
    | some [] => .error .emptyHost
    | some name =>
      if !Ipv4.endsInNumber name || Ipv4.isLenient name then .ok () else .error .ipv4

/-- The signs that no host may hold. -/
def isForbidden (point : CodePoint) : Bool :=
  ("\x00\t\n\r #/:<>?@[\\]^|" : Text).contains point

/-- Check the host of a scheme that is not special. -/
def checkOpaque (host : Text) : Except Refusal Unit :=
  if host.head? = some (.char '[') then checkBracketed host
  else if host.any isForbidden then .error .domainCharacter
  else .ok ()

/-- Check the port at the beginning of a text: digits for at most 65535, up to the
end of the authority. -/
def checkPort (text : Text) : Except Refusal Unit :=
  let digits := text.takeWhile CodePoint.isDigit
  if 65535 < Text.digitsValue digits then .error .port
  else match text.drop digits.length with
    | [] => .ok ()
    | point :: _ => if endsAuthority .special point then .ok () else .error .port

/-- Check an address after the two slashes that begin its authority. -/
def checkAuthority (scheme : SchemeClass) (text : Text) : Except Refusal Unit := do
  let (hasUser, text) ← afterUser scheme text
  let host := hostText scheme false text
  let rest := text.drop host.length
  if scheme ≠ .other && host.isEmpty then .error .emptyHost
  if scheme = .other then checkOpaque host else checkDomain host
  match rest with
  | .char ':' :: port =>
    if host.isEmpty then .error .emptyHost
    checkPort port
  | _ => .ok ()
  if host.isEmpty && hasUser then .error .emptyHost

def isSlash (point : CodePoint) : Bool := point = .char '/' || point = .char '\\'

def isDriveLetter : Text → Bool
  | [letter, colon] => letter.isAlpha && (colon = .char ':' || colon = .char '|')
  | _ => false

/-- Check what follows `file:`.  A host stands after two slashes, and it may be
empty or give way to the letter of a drive. -/
def checkFile : Text → Except Refusal Unit
  | first :: second :: rest =>
    if isSlash first && isSlash second then
      let host := rest.takeWhile (!endsAuthority .file ·)
      if host.isEmpty || isDriveLetter host then .ok () else checkDomain host
    else .ok ()
  | _ => .ok ()

/-- Check that a text is an absolute URL. -/
def check (text : Text) : Except Refusal Unit :=
  if text.toChars?.isNone then .error .notUnicode
  else
    match cutScheme? ((Text.trimWith isOuterBlank text).filter (!isPassedOver ·)) with
    | none => .error .relative
    | some (.file, rest) => checkFile rest
    | some (.special, rest) => checkAuthority .special (rest.dropWhile isSlash)
    | some (.other, rest) =>
      match rest with
      | .char '/' :: .char '/' :: rest => checkAuthority .other rest
      | _ => .ok ()

end SamlAdmin.Url
