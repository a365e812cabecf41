import SamlAdmin.Host.Label
import SamlAdmin.Host.NameMapping
import SamlAdmin.Host.NamePoint
import SamlAdmin.Unicode.Normalization

/-!
# Domain names in web addresses

A web address may hold any spelling of a domain name.  `domainName?` brings it to
the one in ASCII: code points are replaced by their plain spelling, the name is
composed, and each label is checked and written in ASCII.  Nothing is asked of the
lengths of a name and its labels, or of hyphens.
-/

namespace SamlAdmin.Host

/-- The plain spelling of a name, if no code point of it is refused. -/
def plainName? (name : Text) : Option Text :=
  if name.numbers.any isRefused then none
  else
    let kept : Text := name.filter fun point => !isDropped point.toNat
    some (kept.mapped nameMapping).composed

/-- The ASCII signs that no domain name may hold. -/
def isDenied (point : CodePoint) : Bool :=
  point.toNat ≤ 0x20 || point.toNat = 0x7F || ("%#/:<>?@[\\]^|" : Text).contains point

def isPlain (point : CodePoint) : Bool :=
  let number := point.toNat
  !isRefused number && !isDropped number && (nameMapping.replacement? number).isNone

/-- The label that is meant by a label in plain spelling.  One that begins as a label
in ASCII does has to write a label in plain spelling that is not ASCII. -/
def meantLabel? (label : Text) : Option Text :=
  match label.afterPrefix? Label.mark with
  | none => some label
  | some written =>
    match Punycode.decode written with
    | none => none
    | some meant =>
      if meant.all CodePoint.isAscii || !meant.all isPlain || meant.contains (.char '.')
          || meant.composed ≠ meant then none
      else some meant

/-- Whether a label may stand in a domain name, whatever the other labels are. -/
def isLabel (label : Text) : Bool :=
  !label.any isDenied && !Label.beginsWithMark label && Label.joinersFit label

/-- The ASCII spelling of a domain name, if it is one. -/
def domainName? (name : Text) : Option Text := do
  let labels := Text.splitOn (.char '.') (← plainName? name)
  let meant ← labels.mapM meantLabel?
  if meant.all isLabel
      && (!meant.any Label.hasRightToLeft || meant.all Label.keepsOrder) then
    some (Text.join ("." : Text) (labels.map Label.toAscii))
  else none

end SamlAdmin.Host
