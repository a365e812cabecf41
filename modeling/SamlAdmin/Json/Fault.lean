import SamlAdmin.Text.Integer
import SamlAdmin.Text.Utf8

/-!
# What can be wrong with a JSON body

A body is refused because its octets are no text, because its text is no JSON at
some place, or because an integer is too long to be taken.  Each cause has its
sentence, and a place is reported as line, column and offset in code points.
-/

namespace SamlAdmin.Json

/-- What a reader expected at the place where it stopped. -/
inductive Reason where
  | value
  | comma
  | colon
  | propertyName
  | closingQuote
  | escape
  | unicodeEscape
  | noControl
  | endOfText
  deriving DecidableEq

def Reason.message : Reason → Text
  | .value => "Expecting value"
  | .comma => "Expecting ',' delimiter"
  | .colon => "Expecting ':' delimiter"
  | .propertyName => "Expecting property name enclosed in double quotes"
  | .closingQuote => "Unterminated string starting at"
  | .escape => "Invalid \\escape"
  | .unicodeEscape => "Invalid \\uXXXX escape"
  | .noControl => "Invalid control character at"
  | .endOfText => "Extra data"

/-- The encodings in which a JSON body may come, by the names that reports use. -/
inductive Encoding where
  | utf8
  | utf16 (big : Bool)
  | utf32 (big : Bool)
  deriving DecidableEq

def Encoding.name : Encoding → Text
  | .utf8 => "utf-8"
  | .utf16 false => "utf-16-le"
  | .utf16 true => "utf-16-be"
  | .utf32 false => "utf-32-le"
  | .utf32 true => "utf-32-be"

/-- Why a body is no JSON value. -/
inductive Fault where
  | undecodable (encoding : Encoding) (flaw : Flaw)
  | malformed (reason : Reason) (line column offset : Nat)
  | tooManyDigits (count : Nat)
  deriving DecidableEq

def Fault.message : Fault → Text
  | .undecodable encoding flaw => flaw.message encoding.name
  | .malformed reason line column offset =>
    reason.message ++ (": line " : Text) ++ Text.ofNat line ++ (" column " : Text)
      ++ Text.ofNat column ++ (" (char " : Text) ++ Text.ofNat offset ++ (")" : Text)
  | .tooManyDigits count => Text.tooManyDigits count

end SamlAdmin.Json
