import SamlAdmin.Url.Target

/-!
# Where a location leads

A response may send the caller on to a location, which need not be a whole address.
It is read in the light of the address that was asked: what it lacks is taken from
there, and its path goes on from the last slash of that path.

The joining is older than the reading of addresses in `Target`, and cuts differently:
a part that is empty counts as missing, and the last segment of a path may have
parameters behind a semicolon.
-/

namespace SamlAdmin

/-- An address in the parts by which it is joined.  What is missing is empty. -/
structure Reference where
  scheme : Text
  authority : Text
  path : Text
  parameters : Text
  query : Text
  fragment : Text

namespace Reference

/-- The schemes whose addresses have a path to go on from. -/
def relativeSchemes : List Text :=
  ["", "ftp", "http", "gopher", "nntp", "imap", "wais", "file", "https", "shttp", "mms",
   "prospero", "rtsp", "rtsps", "rtspu", "sftp", "svn", "svn+ssh", "ws", "wss"]

/-- The schemes whose paths have parameters. -/
def parameterSchemes : List Text :=
  ["", "ftp", "hdl", "prospero", "http", "imap", "https", "shttp", "rtsp", "rtsps", "rtspu",
   "sip", "sips", "mms", "sftp", "tel"]

/-- Cut the parameters off the last segment of a path. -/
def cutParameters (path : Text) : Text × Text :=
  let last := path.afterLast (.char '/')
  let (name, parameters) := Target.cutAt (.char ';') last
  (path.take (path.length - last.length) ++ name, parameters.getD [])

/-- The parts of an address, with a scheme for one that has none. -/
def ofText (scheme text : Text) : Reference :=
  let parts := Target.Parts.ofText text
  let scheme := if parts.scheme.isEmpty then scheme else parts.scheme.asciiLower
  let (path, parameters) :=
    if parameterSchemes.contains scheme then cutParameters parts.path else (parts.path, [])
  ⟨scheme, parts.authority, path, parameters, parts.query.getD [], parts.fragment.getD []⟩

/-- A sign and a text behind it, or nothing where the text is empty. -/
def behind (sign : Char) (text : Text) : Text := if text.isEmpty then [] else .char sign :: text

/-- Write an address of one of the schemes with paths to go on from. -/
def toText (reference : Reference) : Text :=
  let path := reference.path ++ behind ';' reference.parameters
  let isPlaced := !reference.authority.isEmpty || !reference.scheme.isEmpty
    || (path.afterPrefix? ("//" : Text)).isSome
  let rooted := if path.isEmpty || path.head? = some (.char '/') then path else .char '/' :: path
  (if reference.scheme.isEmpty then [] else reference.scheme ++ (":" : Text))
    ++ (if isPlaced then ("//" : Text) ++ reference.authority ++ rooted else path)
    ++ behind '?' reference.query ++ behind '#' reference.fragment

def segments (base path : Text) : List Text :=
  if path.head? = some (.char '/') then path.splitOn (.char '/')
  else
    let parents := base.splitOn (.char '/')
    let parents := if parents.getLast? = some [] then parents else parents.dropLast
    match parents ++ path.splitOn (.char '/') with
    | [] => []
    | first :: rest => first :: (rest.dropLast.filter (!·.isEmpty) ++ rest.getLast?.toList)

/-- One segment put on top of those before it, the last one first.  Two dots take one away
where there is one. -/
def putSegment (before : List Text) (segment : Text) : List Text :=
  if segment = (".." : Text) then before.tail
  else if segment = ("." : Text) then before
  else segment :: before

/-- A path that goes on from another one.  One that ends in dots ends in a slash. -/
def resolve (base path : Text) : Text :=
  let segments := segments base path
  let put := segments.foldl putSegment []
  let endsInDots := segments.getLast? = some ("." : Text) || segments.getLast? = some (".." : Text)
  let joined := Text.join [.char '/'] (if endsInDots then [] :: put else put).reverse
  if joined.isEmpty then [.char '/'] else joined

/-- A location read in the light of an address. -/
def join (base location : Text) : Text :=
  let asked := ofText [] base
  let next := ofText asked.scheme location
  if base.isEmpty then location
  else if location.isEmpty then base
  else if next.scheme ≠ asked.scheme || !relativeSchemes.contains next.scheme then location
  else if !next.authority.isEmpty then next.toText
  else if next.path.isEmpty && next.parameters.isEmpty then
    toText { next with
      authority := asked.authority, path := asked.path, parameters := asked.parameters,
      query := if next.query.isEmpty then asked.query else next.query }
  else toText { next with authority := asked.authority, path := resolve asked.path next.path }

end Reference

namespace Target

/-- The address that a location leads to from one that was asked.  A location with a scheme
and no host has the host that was asked, a relative one is joined, and one without a fragment
has the fragment that was asked, its escapes undone. -/
def redirected (asked location : Target) : Except Fault Target := do
  let placed ← if !location.scheme.isEmpty && location.host.isEmpty then
      location.withHost asked.host
    else .ok location
  let joined ← if !placed.scheme.isEmpty && !placed.host.isEmpty then .ok placed
    else read (Reference.join asked.toText placed.toText)
  match asked.fragment.getD [], joined.fragment.getD [] with
  | first :: rest, [] => joined.withFragment (Percent.shown (first :: rest))
  | _, _ => .ok joined

end Target

end SamlAdmin
