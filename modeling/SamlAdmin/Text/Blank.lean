import SamlAdmin.Text

/-!
# Blank characters

Two notions of a blank character occur.  The property `White_Space` of Unicode
decides what may surround a number.  Codes of errors and lines of an environment
file are trimmed of a slightly larger class, which also holds the four
information separators U+001C to U+001F.
-/

namespace SamlAdmin

namespace CodePoint

/-- The Unicode property `White_Space`. -/
def isWhiteSpace (point : CodePoint) : Bool :=
  let number := point.toNat
  (0x09 ≤ number && number ≤ 0x0D) || number = 0x20 || number = 0x85 || number = 0xA0
    || number = 0x1680 || (0x2000 ≤ number && number ≤ 0x200A)
    || number = 0x2028 || number = 0x2029 || number = 0x202F
    || number = 0x205F || number = 0x3000

/-- White space, or one of the four information separators. -/
def isBlank (point : CodePoint) : Bool :=
  let number := point.toNat
  point.isWhiteSpace || (0x1C ≤ number && number ≤ 0x1F)

/-- Whether a code point ends a line of an environment file. -/
def isLineEnd (point : CodePoint) : Bool := point = .char '\n' || point = .char '\r'

/-- Whether a code point is blank and stays within its line. -/
def isInlineBlank (point : CodePoint) : Bool := point.isBlank && !point.isLineEnd

end CodePoint

namespace Text

/-- Drop the code points at both ends that satisfy a test. -/
def trimWith (test : CodePoint → Bool) (text : Text) : Text :=
  dropEndWhile test (text.dropWhile test)

def trimBlank : Text → Text := trimWith CodePoint.isBlank

def trimWhiteSpace : Text → Text := trimWith CodePoint.isWhiteSpace

end Text

end SamlAdmin
