import SamlAdmin.Unicode.Printable
import SamlAdmin.Value

/-!
# Literals in messages

A message that names a value writes it as a literal: text in quotes with escapes
for what cannot be printed, numbers in their shortest form, and lists, tuples and
objects in their brackets.  `Text.quoted` is the literal of a text, `Value.literal`
that of any value, and `Value.plain` is the same with a text left unquoted.
-/

namespace SamlAdmin

namespace Text

/-- Quoted text stands between single quotes, unless it holds a single quote and
no double quote. -/
def quoteFor (text : Text) : Char :=
  if text.contains (.char '\'') && !text.contains (.char '"') then '"' else '\''

/-- How one code point is written between quotes. -/
def escapePoint (quote : Char) (point : CodePoint) : Text :=
  if point = .char quote ∨ point = .char '\\' then [.char '\\', point]
  else if point = .char '\n' then "\\n"
  else if point = .char '\r' then "\\r"
  else if point = .char '\t' then "\\t"
  else
    let number := point.toNat
    if Unicode.isPrintable number then [point]
    else if number < 0x100 then ("\\x" : Text) ++ ofHex 2 number
    else if number < 0x10000 then ("\\u" : Text) ++ ofHex 4 number
    else ("\\U" : Text) ++ ofHex 8 number

def quoted (text : Text) : Text :=
  let quote := text.quoteFor
  .char quote :: (text.flatMap (escapePoint quote) ++ [.char quote])

/-- How one octet is written between quotes. -/
def escapeOctet (quote : Char) (octet : UInt8) : Text :=
  let number := octet.toNat
  if number < 0x20 ∨ 0x7F ≤ number then
    if number = 0x09 then "\\t"
    else if number = 0x0A then "\\n"
    else if number = 0x0D then "\\r"
    else ("\\x" : Text) ++ ofHex 2 number
  else
    let value := Char.ofNat number
    if value = quote ∨ value = '\\' then ofChars ['\\', value] else ofChars [value]

/-- Octets as a quoted literal, marked by a leading `b`. -/
def quotedOctets (octets : List UInt8) : Text :=
  let quote := quoteFor (ofChars (octets.map fun octet => Char.ofNat octet.toNat))
  .char 'b' :: .char quote :: (octets.flatMap (escapeOctet quote) ++ [.char quote])

end Text

namespace Certificate

/-- The field of a certificate as messages write it. -/
def fieldText (certificate : Certificate) : Text :=
  ("x509_certificate=" : Text) ++ certificate.pem.quoted

end Certificate

namespace Value

mutual

/-- A value as a literal. -/
def literal : Value → Text
  | .null => "None"
  | .bool true => "True"
  | .bool false => "False"
  | .int value => Text.ofInt value
  | .float value => value.toText .plain
  | .str value => value.quoted
  | .list items => .char '[' :: (Text.join ", " (literals items) ++ ("]" : Text))
  | .object members => .char '\x7b' :: (Text.join ", " (memberLiterals members) ++ ("\x7d" : Text))
  | .bytes octets => Text.quotedOctets octets
  | .tuple [item] => .char '(' :: (literal item ++ (",)" : Text))
  | .tuple items => .char '(' :: (Text.join ", " (literals items) ++ (")" : Text))
  | .certificate value => ("IdpCertificate(" : Text) ++ value.fieldText ++ (")" : Text)
  | .emptyMap => "NestedMap(\x7b\x7d)"
  | .bareObject => "<object>"

def literals : List Value → List Text
  | [] => []
  | item :: items => literal item :: literals items

def memberLiterals : List (Text × Value) → List Text
  | [] => []
  | (key, value) :: members =>
    (key.quoted ++ (": " : Text) ++ literal value) :: memberLiterals members

end

/-- A value as it reads inside a sentence: text as it is, everything else as a
literal. -/
def plain : Value → Text
  | .str value => value
  | .certificate value => value.fieldText
  | value => value.literal

end Value

end SamlAdmin
