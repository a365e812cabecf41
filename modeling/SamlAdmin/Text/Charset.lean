import SamlAdmin.Host.Punycode
import SamlAdmin.Text.Blank
import SamlAdmin.Text.CodePage
import SamlAdmin.Text.Integer
import SamlAdmin.Text.Wide

/-!
# Encodings by name

The encodings that read the octets of a text are known by name.  Each of them reads
in two ways: what it cannot decode is replaced by U+FFFD, or there is no text at all.

Some names are known and yet read nothing even where they may replace.  An encoding
that promises a byte order mark refuses octets without it, and there are names that
stand for something else than text, or for an encoding that cannot replace.

`Charset` lists encodings with their names.  A platform may know more of them, and
those are a parameter, `Codecs`: a name that is not listed is looked up there.
-/

namespace SamlAdmin

/-- Why octets have no text: what is wrong with them under an encoding, or with the way
in which the encoding is named. -/
inductive Unreadable where
  | unmarked16
  | unmarked32
  | binary
  | rotated
  | undefined
  | irreplaceable
  | nul
  | beyondAscii (flaw : Flaw)
  | tooManyDigits (count : Nat)
  | mixedNumbers (numberedFirst : Bool)
  | foreign (message : Text)
  deriving DecidableEq

/-- The sentence that reports why octets have no text. -/
def Unreadable.message : Unreadable → Text
  | .unmarked16 => "UTF-16 stream does not start with BOM"
  | .unmarked32 => "UTF-32 stream does not start with BOM"
  | .binary => ""
  | .rotated => "descriptor 'translate' for 'str' objects doesn't apply to a 'bytes' object"
  | .undefined => "undefined encoding"
  | .irreplaceable => "Unsupported error handling replace"
  | .nul => "embedded null character"
  | .beyondAscii flaw => flaw.message "ascii"
  | .tooManyDigits count => Text.tooManyDigits count
  | .mixedNumbers true => "'<' not supported between instances of 'NoneType' and 'int'"
  | .mixedNumbers false => "'<' not supported between instances of 'int' and 'NoneType'"
  | .foreign message => message

/-- The encodings that are listed here. -/
inductive Charset where
  | ascii
  | latin1
  | page (content : CodePage)
  | utf8
  | utf8Marked
  | utf16
  | utf16Ordered (order : Wide.Order)
  | utf32
  | utf32Ordered (order : Wide.Order)
  | punycode
  | useless (reason : Unreadable)
  deriving DecidableEq

namespace Charset

/-- Whether a sign belongs to a word of a name. -/
def isWord (point : CodePoint) : Bool := point.isAlpha || point.isDigit || point = .char '.'

/-- The spelling under which a name is looked up: its words in lower case, with one
underscore between them. -/
def normalize (name : Text) : Text :=
  Text.join ("_" : Text) ((name.asciiLower.splitOnP (!isWord ·)).filter (!·.isEmpty))

/-- The encodings other than code pages, by normalized name. -/
def names : List (Charset × List Text) :=
  [(.ascii, ["ascii", "us_ascii", "646", "ansi_x3.4_1968", "ansi_x3_4_1968", "ansi_x3.4_1986",
     "cp367", "csascii", "ibm367", "iso646_us", "iso_646.irv_1991", "iso_ir_6", "us"]),
   (.latin1, ["latin_1", "latin1", "latin", "l1", "iso_8859_1", "iso8859_1", "iso8859", "8859",
     "cp819", "csisolatin1", "ibm819", "iso_8859_1_1987", "iso_ir_100"]),
   (.utf8, ["utf_8", "utf8", "u8", "utf", "cp65001", "utf8_ucs2", "utf8_ucs4"]),
   (.utf8Marked, ["utf_8_sig"]),
   (.utf16, ["utf_16", "utf16", "u16"]),
   (.utf16Ordered .little, ["utf_16_le", "utf_16le", "unicodelittleunmarked"]),
   (.utf16Ordered .big, ["utf_16_be", "utf_16be", "unicodebigunmarked"]),
   (.utf32, ["utf_32", "utf32", "u32"]),
   (.utf32Ordered .little, ["utf_32_le", "utf_32le"]),
   (.utf32Ordered .big, ["utf_32_be", "utf_32be"]),
   (.punycode, ["punycode"]),
   (.useless .binary, ["base64", "base_64", "base64_codec", "bz2", "bz2_codec", "hex", "hex_codec",
     "quopri", "quoted_printable", "quotedprintable", "quopri_codec", "uu", "uu_codec", "zip",
     "zlib", "zlib_codec"]),
   (.useless .rotated, ["rot13", "rot_13"]),
   (.useless .undefined, ["undefined"]),
   (.useless .irreplaceable, ["idna"])]

/-- The encoding with a given name. -/
def ofName? (name : Text) : Option Charset :=
  let known := normalize name
  match names.find? fun entry => entry.2.contains known with
  | some (charset, _) => some charset
  | none => (CodePage.all.find? (·.names.contains known)).map .page

/-- Octets that each stand for the code point with their own number, up to a limit
above which nothing is defined. -/
def direct (limit : Nat) (octets : List UInt8) : Text :=
  octets.map fun octet =>
    if octet.toNat < limit then .char (Char.ofNat octet.toNat) else .replacement

/-- Put U+FFFD in the place of every lone surrogate. -/
def withoutHalves (text : Text) : Text :=
  text.map fun
    | .surrogate _ => .replacement
    | point => point

/-- Read octets as Punycode: ASCII up to the last hyphen, where other octets are
replaced, and after it counts, which have to be ASCII. -/
def decodePunycode (octets : List UInt8) : Except Unreadable Text :=
  let counts := (octets.reverse.takeWhile (· ≠ 0x2D)).reverse
  match counts.findIdx? (0x80 ≤ ·) with
  | some position =>
    .error (.beyondAscii ⟨.notAscii, position, 1, counts.getD position 0⟩)
  | none =>
    .ok (Punycode.salvage (direct 0x80 (octets.take (octets.length - counts.length - 1)))
      (direct 0x80 counts))

/-- Read octets as text; what cannot be decoded is replaced.  An encoding that has
to begin with a mark needs it as soon as the octets hold a whole unit. -/
def decode (octets : List UInt8) : Charset → Except Unreadable Text
  | .ascii => .ok (direct 0x80 octets)
  | .latin1 => .ok (direct 0x100 octets)
  | .page content =>
      .ok (octets.map fun octet => .char (Char.ofNat (content.numberOf octet.toNat)))
  | .utf8 => .ok (Piece.replaced (Utf8.pieces false octets))
  | .utf8Marked => .ok <| Piece.replaced <| Utf8.pieces false <|
      match octets with
      | 0xEF :: 0xBB :: 0xBF :: rest => rest
      | [0xEF] | [0xEF, 0xBB] => []
      | octets => octets
  | .utf16 =>
      match Wide.mark16? octets with
      | some (order, rest) => .ok (Wide.replaced16 order rest)
      | none => if 2 ≤ octets.length then .error .unmarked16 else .ok (Wide.replaced16 .little octets)
  | .utf16Ordered order => .ok (Wide.replaced16 order octets)
  | .utf32 =>
      match Wide.mark32? octets with
      | some (order, rest) => .ok (withoutHalves (Piece.replaced (Wide.pieces32 order 0 rest)))
      | none =>
        if 4 ≤ octets.length then .error .unmarked32
        else .ok (Piece.replaced (Wide.pieces32 .little 0 octets))
  | .utf32Ordered order => .ok (withoutHalves (Piece.replaced (Wide.pieces32 order 0 octets)))
  | .punycode => decodePunycode octets
  | .useless reason => if octets.isEmpty then .ok [] else .error reason

/-- A text without lone surrogates. -/
def whole? (text : Text) : Option Text := if text.all CodePoint.isScalar then some text else none

/-- The text of some pieces without flaws and lone surrogates. -/
def wholePieces? (pieces : List Piece) : Option Text := (Piece.strict pieces).toOption.bind whole?

/-- Read UTF-16 without anything to replace. -/
def strict16? (order : Wide.Order) (octets : List UInt8) : Option Text :=
  (Wide.strict16 order 0 octets).toOption.bind whole?

/-- Read ASCII without anything to replace. -/
def strictAscii? (octets : List UInt8) : Option Text :=
  if octets.all (· < 0x80) then some (direct 0x80 octets) else none

/-- Read Punycode without anything to replace. -/
def strictPunycode? (octets : List UInt8) : Option Text := (strictAscii? octets).bind Punycode.read

/-- Read octets as text with nothing replaced.  An encoding that may begin with a mark
does without it and then reads little units. -/
def strict? (octets : List UInt8) : Charset → Option Text
  | .ascii => strictAscii? octets
  | .latin1 => some (direct 0x100 octets)
  | .page content =>
      let numbers := octets.map fun octet => content.numberOf octet.toNat
      if numbers.contains 0xFFFD then none
      else some (numbers.map fun number => .char (Char.ofNat number))
  | .utf8 => wholePieces? (Utf8.pieces false octets)
  | .utf8Marked => wholePieces? <| Utf8.pieces false <|
      match octets with
      | 0xEF :: 0xBB :: 0xBF :: rest => rest
      | octets => octets
  | .utf16 =>
      match Wide.mark16? octets with
      | some (order, rest) => strict16? order rest
      | none => strict16? .little octets
  | .utf16Ordered order => strict16? order octets
  | .utf32 =>
      match Wide.mark32? octets with
      | some (order, rest) => wholePieces? (Wide.pieces32 order 0 rest)
      | none => wholePieces? (Wide.pieces32 .little 0 octets)
  | .utf32Ordered order => wholePieces? (Wide.pieces32 order 0 octets)
  | .punycode => strictPunycode? octets
  -- the encoding of host names cannot replace, and yet it reads plain names
  | .useless .irreplaceable => strictAscii? octets
  | .useless _ => none

end Charset

/-- An encoding that is not listed: what it makes of octets where it may replace, and the
text that it reads without replacing. -/
structure Codec where
  replaced : List UInt8 → Except Unreadable Text
  strict? : List UInt8 → Option Text

/-- The encodings that a platform knows beside the listed ones, by name. -/
structure Codecs where
  find? : Text → Option Codec

/-- No encodings but the listed ones. -/
def Codecs.none : Codecs where
  find? _ := .none

/-- An encoding: one that is listed, or another that is known. -/
inductive Encoding where
  | listed (charset : Charset)
  | other (codec : Codec)

namespace Encoding

/-- Read octets as text; what cannot be decoded is replaced. -/
def decode (octets : List UInt8) : Encoding → Except Unreadable Text
  | .listed charset => charset.decode octets
  | .other codec => codec.replaced octets

/-- Read octets as text with nothing replaced. -/
def strict? (octets : List UInt8) : Encoding → Option Text
  | .listed charset => charset.strict? octets
  | .other codec => codec.strict? octets

end Encoding

/-- The encoding with a given name.  Only names in ASCII are listed, and no name may hold
U+0000. -/
def Codecs.lookup (codecs : Codecs) (name : Text) : Except Unreadable (Option Encoding) :=
  if name.contains (.char '\x00') then .error .nul
  else
    let listed? := if name.all CodePoint.isAscii then Charset.ofName? name else .none
    .ok ((listed?.map .listed).or ((codecs.find? name).map .other))

end SamlAdmin
