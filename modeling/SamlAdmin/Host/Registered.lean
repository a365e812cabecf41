import SamlAdmin.Host.Domain
import SamlAdmin.Unicode.Case
import SamlAdmin.Unicode.Script

/-!
# Names that can be registered

A request goes to a host whose name could be registered: each label is composed,
holds letters, digits and marks, and a few signs only between certain neighbours.
`registeredName?` writes such a name in ASCII, with at most 63 signs in a label and
253 in the name.
-/

namespace SamlAdmin.Host

def longestLabel : Nat := 63

/-- The most signs in a name, a dot at its end apart. -/
def longestName : Nat := 253

def isDot (point : CodePoint) : Bool := ([0x2E, 0x3002, 0xFF0E, 0xFF61]).contains point.toNat

/-- The labels of a name. -/
def labels (name : Text) : List Text :=
  Text.splitOn (.char '.') (name.map fun point => if isDot point then .char '.' else point)

/-- Whether a code point is a letter, a digit or a mark that a registered name may
hold in every place. -/
def isLetter (number : Nat) : Bool :=
  !isRefused number && !isDropped number && !isSymbol number
    && (nameMapping.replacement? number).isNone

def isArabicDigit (number : Nat) : Bool := 0x660 ≤ number && number ≤ 0x669

def isPersianDigit (number : Nat) : Bool := 0x6F0 ≤ number && number ≤ 0x6F9

/-- Whether a sign fits its place in a label, between what is before it, backwards,
and what is after it. -/
def signFits (before : List Nat) (number : Nat) (after : List Nat) : Bool :=
  if number = Label.joiner || number = Label.nonJoiner then
    Label.joinerFits number before after
  else if number = 0xB7 then before.head? = some 0x6C && after.head? = some 0x6C
  else if number = 0x375 then after.head?.any Unicode.isGreek
  else if number = 0x5F3 || number = 0x5F4 then before.head?.any Unicode.isHebrew
  else if number = 0x30FB then
    (before ++ after).any fun other => other ≠ 0x30FB && Unicode.isJapanese other
  else if isArabicDigit number then !(before ++ after).any isPersianDigit
  else if isPersianDigit number then !(before ++ after).any isArabicDigit
  else false

/-- Whether the hyphens of a label stand in places where they may. -/
def hyphensFit (label : Text) : Bool :=
  (label.drop 2).take 2 ≠ ("--" : Text) && label.head? ≠ some (.char '-')
    && label.getLast? ≠ some (.char '-')

/-- Whether a label can be registered. -/
def isRegistrable (label : Text) : Bool :=
  !label.isEmpty && label.composed = label && hyphensFit label
    && !Label.beginsWithMark label
    && Label.allInContext (fun before number after =>
      isLetter number || signFits before number after) [] label.numbers
    && (!Label.hasRightToLeft label || Label.keepsOrder label)

/-- The label that is meant by a label in ASCII, if it writes one. -/
def writtenLabel? (label : Text) : Option Text :=
  match label.afterPrefix? Label.mark with
  | none => some label
  | some written => if written.getLast? = some (.char '-') then none else Punycode.read written

/-- The ASCII spelling of a label that can be registered. -/
def registeredLabel? (label : Text) : Option Text :=
  let meant? := if label.all CodePoint.isAscii then writtenLabel? label else some label
  let written := Label.toAscii label
  if meant?.any isRegistrable && written.length ≤ longestLabel then some written else none

/-- The ASCII spelling of a name that can be registered.  A dot at the end is
kept. -/
def registeredName? (name : Text) : Option Text := do
  let name := name.lower
  if longestName + 1 < name.length then none
  let parts := labels name
  let closed : Bool := parts.getLast? = some []
  let written ← (if closed then parts.dropLast else parts).mapM registeredLabel?
  let text := Text.join ("." : Text) written
  if written.isEmpty || longestName < text.length then none
  some (if closed then text ++ ("." : Text) else text)

end SamlAdmin.Host
