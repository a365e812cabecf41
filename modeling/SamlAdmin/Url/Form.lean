import SamlAdmin.Url.Percent
import SamlAdmin.Text.Literal

/-!
# Query parameters

A query is a list of pairs of a name and a text, written `name=text` with `&`
between them.  In each part a space becomes a plus sign and everything but the
unreserved signs is escaped.  `Form.pairs` makes the pairs of a parameter object,
where a list stands for one pair for each of its items, `Form.encode` writes them,
and `Form.decode` reads them back.
-/

namespace SamlAdmin.Form

def encodePoint (point : CodePoint) : Text :=
  if point = .char ' ' then [.char '+'] else Percent.encodePoint Percent.isUnreserved point

def encodePart (part : Text) : Text := part.flatMap encodePoint

def encodePair (pair : Text × Text) : Text :=
  encodePart pair.1 ++ .char '=' :: encodePart pair.2

/-- A query. -/
def encode (pairs : List (Text × Text)) : Text := Text.join [.char '&'] (pairs.map encodePair)

/-- The first part of a query that UTF-8 cannot write. -/
def fault? (pairs : List (Text × Text)) : Option Unencodable :=
  pairs.findSome? fun (name, text) => (Utf8.fault? name).or (Utf8.fault? text)

/-- How a scalar parameter is written: flags in lower case, nothing for null, and
everything else as it reads in a sentence. -/
def scalarText : Value → Text
  | .bool true => "true"
  | .bool false => "false"
  | .null => ""
  | value => value.plain

/-- The pairs of one parameter. -/
def parameterPairs (name : Text) : Value → List (Text × Text)
  | .list items => items.map fun item => (name, scalarText item)
  | .tuple items => items.map fun item => (name, scalarText item)
  | value => [(name, scalarText value)]

/-- The pairs of all parameters. -/
def pairs (parameters : List (Text × Value)) : List (Text × Text) :=
  parameters.flatMap fun (name, value) => parameterPairs name value

/-- The octets of a part, a plus sign read as a space. -/
def decodePart (part : Text) : List UInt8 :=
  Percent.decode (part.map fun point => if point = .char '+' then .char ' ' else point)

/-- The text that a part writes; what is no UTF-8 is replaced. -/
def decodeText (part : Text) : Text := Piece.replaced (Utf8.pieces false (decodePart part))

/-- The pairs that a query writes.  Empty parts between separators are passed over,
and a part without an equals sign is a name with an empty text. -/
def decode (query : Text) : List (Text × Text) :=
  ((query.splitOn (.char '&')).filter (!·.isEmpty)).map fun part =>
    let name := Text.beforeFirst (.char '=') part
    (decodeText name, decodeText (part.drop (name.length + 1)))

end SamlAdmin.Form
