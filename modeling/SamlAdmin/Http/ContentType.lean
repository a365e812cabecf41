import SamlAdmin.Text.Charset
import SamlAdmin.Unicode.Case

/-!
# Content types

The `charset` parameter of a content type names the encoding of a body.  Without one,
or with a name that is not known, the body is UTF-8.

A parameter may be given in pieces, `charset*0=utf-; charset*1=16`, which are put in
the order of their numbers.  The text of a piece may be escaped with percent signs, and
then the whole names the encoding of what the escapes stand for and its language before
the text itself, `charset*=us-ascii'en'utf-16`.  The numbers of all parameters are read
to find one of them, so that a number in a parameter that nobody asks for can still
spoil a content type.
-/

namespace SamlAdmin.ContentType

/-- The parts of a content type between the semicolons that stand outside quotes.  A
quote after a backslash neither opens nor closes. -/
def parts (inQuotes escaped : Bool) : Text → List Text
  | [] => [[]]
  | point :: rest =>
    if point = .char ';' && !inQuotes then [] :: parts false false rest
    else
      match parts (inQuotes ^^ (point = .char '"' && !escaped)) (point = .char '\\') rest with
      | [] => [[point]]
      | part :: others => (point :: part) :: others

/-- A parameter: its name, and its value as it is spelled. -/
structure Parameter where
  name : Text
  value : Text
  deriving DecidableEq

/-- The parameter that a part is.  Without a value it is a name as it stands. -/
def Parameter.ofPart (part : Text) : Parameter :=
  let name := part.beforeFirst (.char '=')
  match part.drop name.length with
  | [] => ⟨part.trimBlank, []⟩
  | _ :: value => ⟨name.trimBlank.lower, Text.trimBlank value⟩

def parameters (contentType : Text) : List Parameter :=
  (parts false false contentType).map .ofPart

/-- A text where the first of two neighbouring signs is dropped. -/
def dropBefore (dropped kept : CodePoint) : Text → Text
  | first :: second :: rest =>
    if first = dropped && second = kept then second :: dropBefore dropped kept rest
    else first :: dropBefore dropped kept (second :: rest)
  | rest => rest

def isBetween (left right : Char) (text : Text) : Bool :=
  1 < text.length && text.head? = some (.char left) && text.getLast? = some (.char right)

/-- A value without the quotes, or the angle brackets, that it stands in.  Between quotes,
backslashes keep backslashes and quotes. -/
def unquoted (value : Text) : Text :=
  if isBetween '"' '"' value then
    dropBefore (.char '\\') (.char '"') (dropBefore (.char '\\') (.char '\\') value.tail.dropLast)
  else if isBetween '<' '>' value then value.tail.dropLast
  else value

/-! ## Parameters in pieces -/

/-- A piece of a parameter: the name of the parameter, the digits of its own number, its
text, and whether the text is escaped. -/
structure Segment where
  name : Text
  digits : Text
  text : Text
  isEscaped : Bool
  deriving DecidableEq

namespace Segment

/-- Whether a sign may stand in the name of a parameter that is given in pieces. -/
def isNameSign (point : CodePoint) : Bool := point.isAlpha || point.isDigit || point = .char '_'

/-- The piece that a parameter is.  An asterisk divides its name from its number, and a
name without a number, or an asterisk behind it, says that the text is escaped. -/
def ofParameter? (parameter : Parameter) : Option Segment :=
  let name := parameter.name.takeWhile isNameSign
  match name, parameter.name.drop name.length with
  | _ :: _, .char '*' :: number =>
    let digits := number.takeWhile CodePoint.isDigit
    let text := unquoted parameter.value
    match digits, number.drop digits.length with
    | digits, [] => some ⟨name, digits, text, digits.isEmpty⟩
    | _ :: _, [.char '*'] => some ⟨name, digits, text, true⟩
    | _, _ => none
  | _, _ => none

/-- Whether a piece has a number. -/
def isNumbered (segment : Segment) : Bool := !segment.digits.isEmpty

/-- Whether a piece may stand before another one of its parameter. -/
def le (left right : Segment) : Bool :=
  let size (segment : Segment) : Nat := Text.digitsValue segment.digits
  let written (segment : Segment) : List Nat := segment.text.map CodePoint.toNat
  size left < size right
    || (size left = size right && (written left < written right
      || (written left = written right && (!left.isEscaped || right.isEscaped))))

/-- Put a piece in its place among pieces that are in order. -/
def place (segment : Segment) : List Segment → List Segment
  | [] => [segment]
  | first :: rest =>
    if segment.le first then segment :: first :: rest else first :: place segment rest

/-- A text where every escape is the code point with the number of its octet. -/
def unescaped : Text → Text
  | [] => []
  | .char '%' :: first :: second :: rest =>
    match first.hexValue?, second.hexValue? with
    | some high, some low => .char (Char.ofNat (16 * high + low)) :: unescaped rest
    | _, _ => .char '%' :: unescaped (first :: second :: rest)
  | point :: rest => point :: unescaped rest

/-- What a piece adds to the value of its parameter. -/
def content (segment : Segment) : Text :=
  if segment.isEscaped then unescaped segment.text else segment.text

end Segment

/-- The pieces of a content type.  The kind of the content is none. -/
def segments (contentType : Text) : List Segment :=
  (parameters contentType).tail.filterMap Segment.ofParameter?

def segmentsOf (name contentType : Text) : List Segment :=
  (segments contentType).filter (·.name = name)

/-- Whether some pieces of one parameter have numbers and others have none. -/
def areMixed : List Segment → Bool
  | [] => false
  | first :: rest => rest.any (·.isNumbered ≠ first.isNumbered)

/-- What is wrong with the numbers of pieces: one has too many digits, or the pieces of
one parameter cannot be put in order. -/
def numberFault? (contentType : Text) : Option Unreadable :=
  match (segments contentType).find? (Text.integerDigitLimit < ·.digits.length) with
  | some segment => some (.tooManyDigits segment.digits.length)
  | none =>
    let groups := (segments contentType).map fun segment => segmentsOf segment.name contentType
    (groups.find? areMixed).bind fun group => group.head?.map (.mixedNumbers ·.isNumbered)

/-! ## The charset -/

/-- The value of a parameter.  One that was escaped may name the encoding of its text. -/
inductive Value where
  | plain (text : Text)
  | encoded (encoding text : Text)
  deriving DecidableEq

/-- A text with a backslash before each backslash and each quote. -/
def guarded (text : Text) : Text :=
  text.flatMap fun point =>
    if point = .char '\\' || point = .char '"' then [.char '\\', point] else [point]

/-- The value that pieces make, in the order of their numbers.  What was escaped stands
behind the names of an encoding and of a language; the name of the encoding is left as it
would stand between quotes. -/
def Value.ofSegments (segments : List Segment) : Value :=
  let text := (segments.foldr Segment.place []).flatMap Segment.content
  if segments.any (·.isEscaped) then
    match text.splitOn (.char '\'') with
    | encoding :: _ :: first :: rest =>
      .encoded (guarded encoding) (Text.join [.char '\''] (first :: rest))
    | _ => .encoded [] text
  else .plain text

/-- Whether a name is the one of the charset, in any case of its letters. -/
def isCharset (name : Text) : Bool := name.lower = ("charset" : Text)

/-- The charset parameter of a content type, which is looked for among the parameters that
are given as a whole before those that are given in pieces. -/
def charsetValue? (contentType : Text) : Option Value :=
  let parameters := parameters contentType
  let wholes := parameters.take 1 ++ parameters.tail.filter (Segment.ofParameter? · |>.isNone)
  match wholes.find? (isCharset ·.name) with
  | some parameter => some (.plain (unquoted parameter.value))
  | none => ((segments contentType).find? (isCharset ·.name)).map fun segment =>
      .ofSegments (segmentsOf segment.name contentType)

example : charsetValue? "text/plain; charset*1=16; charset*0=utf-" = some (.plain "utf-16") := by
  decide +kernel

example : charsetValue? "text/plain; charset*=us-ascii'en'utf%2D16" =
    some (.encoded "us-ascii" "utf-16") := by
  decide +kernel

/-- The octets of a text in which code points beyond the first 256 are written by their
numbers. -/
def octets (text : Text) : List UInt8 :=
  text.flatMap fun point =>
    let number := point.toNat
    if number < 0x100 then [UInt8.ofNat number]
    else if number < 0x10000 then Utf8.encode (("\\u" : Text) ++ Text.ofHex 4 number)
    else Utf8.encode (("\\U" : Text) ++ Text.ofHex 8 number)

/-- The text of a value.  Where the octets of an encoded text are none under its encoding,
or the encoding is not known, the text stands for itself. -/
def Value.decoded (codecs : Codecs) : Value → Except Unreadable Text
  | .plain text => .ok text
  | .encoded encoding text =>
    match codecs.lookup (if encoding.isEmpty then ("us-ascii" : Text) else encoding) with
    | .error reason => .error reason
    | .ok known =>
      if text.isEmpty then .ok []
      else .ok ((known.bind (·.strict? (octets text))).getD text)

/-- The name of the charset, in lower case.  A name beyond ASCII is none. -/
def charset (codecs : Codecs) (contentType : Text) : Except Unreadable (Option Text) :=
  match numberFault? contentType with
  | some reason => .error reason
  | none =>
    match charsetValue? contentType with
    | none => .ok none
    | some value => (value.decoded codecs).map fun name =>
        if name.all CodePoint.isAscii then some name.asciiLower else none

/-- The encoding of a body with a given content type. -/
def encoding (codecs : Codecs) : Option Text → Except Unreadable Encoding
  | none => .ok (.listed .utf8)
  | some contentType =>
    match charset codecs contentType with
    | .error reason => .error reason
    | .ok none => .ok (.listed .utf8)
    | .ok (some name) => (codecs.lookup name).map (·.getD (.listed .utf8))

end SamlAdmin.ContentType
