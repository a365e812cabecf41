import SamlAdmin.Json.Fault
import SamlAdmin.Members
import SamlAdmin.Value

/-!
# Reading JSON

`Json.read` turns a text into a value or says where and why it cannot.  Every
reader takes the text that is left and returns what it read with the text after
it; a place is remembered as the length of the text that is left there, and only
a text that is refused pays for turning it into a line and a column.

The grammar is that of JSON with three words more, `NaN`, `Infinity` and
`-Infinity`.  Of two members with one name the later value counts.
-/

namespace SamlAdmin.Json

/-- Where and why a reader stopped. -/
inductive Stop where
  | expected (reason : Reason) (left : Nat)
  | digits (count : Nat)
  deriving DecidableEq

/-- What a reader returns: something with the text after it, or where it stopped. -/
abbrev Step (α : Type) := Except Stop (α × Text)

def stopAt {α : Type} (reason : Reason) (text : Text) : Step α :=
  .error (.expected reason text.length)

/-- Whether a code point may stand between the signs of a JSON text. -/
def isSpace (point : CodePoint) : Bool :=
  point = .char ' ' || point = .char '\t' || point = .char '\n' || point = .char '\r'

def skip (text : Text) : Text := text.dropWhile isSpace

/-- The character that a short escape stands for. -/
def shortEscape? : CodePoint → Option Char
  | .char '"' => some '"'
  | .char '\\' => some '\\'
  | .char '/' => some '/'
  | .char 'b' => some '\x08'
  | .char 'f' => some '\x0C'
  | .char 'n' => some '\n'
  | .char 'r' => some '\r'
  | .char 't' => some '\t'
  | _ => none

/-- The number that four hexadecimal digits write.  The text must go on after
them. -/
def fourHex? : Text → Option (Nat × Text)
  | first :: second :: third :: fourth :: next :: rest =>
    match first.hexValue?, second.hexValue?, third.hexValue?, fourth.hexValue? with
    | some first, some second, some third, some fourth =>
      some (4096 * first + 256 * second + 16 * third + fourth, next :: rest)
    | _, _, _, _ => none
  | _ => none

/-- The code point of an escape by number.  A high surrogate is joined with a low
one that is escaped right after it. -/
def numbered (number : Nat) (rest : Text) : Step CodePoint :=
  let alone : Step CodePoint := .ok ((CodePoint.ofNat? number).getD .replacement, rest)
  if 0xD800 ≤ number ∧ number < 0xDC00 ∧ 6 < rest.length then
    match rest with
    | .char '\\' :: .char 'u' :: more =>
      match fourHex? more with
      | none => stopAt .unicodeEscape (.char 'u' :: more)
      | some (low, after) =>
        if 0xDC00 ≤ low ∧ low < 0xE000 then
          .ok (.char (Char.ofNat (0x10000 + 0x400 * (number - 0xD800) + (low - 0xDC00))), after)
        else alone
    | _ => alone
  else alone

/-- The code point of the escape that follows a backslash, where `text` begins with
the backslash and `opening` is the length of the text left at the opening quote. -/
def readEscape (opening : Nat) (text : Text) : Step CodePoint :=
  match text with
  | _ :: .char 'u' :: rest =>
    match fourHex? rest with
    | none => stopAt .unicodeEscape (.char 'u' :: rest)
    | some (number, after) => numbered number after
  | _ :: point :: rest =>
    match shortEscape? point with
    | some value => .ok (.char value, rest)
    | none => stopAt .escape text
  | _ => .error (.expected .closingQuote opening)

/-- The text of a string up to its closing quote. -/
def readString (opening : Nat) : (fuel : Nat) → Text → Step Text
  | 0, _ => .error (.expected .closingQuote opening)
  | fuel + 1, text =>
    match text with
    | [] => .error (.expected .closingQuote opening)
    | .char '"' :: rest => .ok ([], rest)
    | .char '\\' :: _ =>
      match readEscape opening text with
      | .error stop => .error stop
      | .ok (point, rest) =>
        match readString opening fuel rest with
        | .error stop => .error stop
        | .ok (points, after) => .ok (point :: points, after)
    | point :: rest =>
      if point.toNat < 0x20 then stopAt .noControl text
      else
        match readString opening fuel rest with
        | .error stop => .error stop
        | .ok (points, after) => .ok (point :: points, after)

/-- The whole part of a number: a zero, or digits that do not begin with one. -/
def wholeDigits (text : Text) : Text :=
  match text with
  | .char '0' :: _ => "0"
  | _ => text.takeWhile CodePoint.isDigit

/-- The digits after a decimal point, if there is one with a digit after it. -/
def fractionDigits : Text → Text
  | .char '.' :: rest => rest.takeWhile CodePoint.isDigit
  | _ => []

/-- The exponent of a number and how many code points it takes, if there is one
with a digit. -/
def exponent? : Text → Option (Int × Nat)
  | .char mark :: rest =>
    if mark = 'e' ∨ mark = 'E' then
      let (negative, signs, body) : Bool × Nat × Text := match rest with
        | .char '-' :: body => (true, 1, body)
        | .char '+' :: body => (false, 1, body)
        | body => (false, 0, body)
      let digits := body.takeWhile CodePoint.isDigit
      if digits.isEmpty then none
      else
        let size : Int := (Text.digitsValue digits : Nat)
        some (if negative then -size else size, 1 + signs + digits.length)
    else none
  | _ => none

/-- A number: an integer unless it has a fraction or an exponent. -/
def readNumber (text : Text) : Step Value :=
  let (negative, body) : Bool × Text := match text with
    | .char '-' :: body => (true, body)
    | body => (false, body)
  let whole := wholeDigits body
  if whole.isEmpty then stopAt .value text
  else
    let afterWhole := body.drop whole.length
    let fraction := fractionDigits afterWhole
    let afterFraction := if fraction.isEmpty then afterWhole
      else afterWhole.drop (fraction.length + 1)
    match fraction, exponent? afterFraction with
    | [], none =>
      if Text.integerDigitLimit < whole.length then .error (.digits whole.length)
      else
        let size : Int := (Text.digitsValue whole : Nat)
        .ok (.int (if negative then -size else size), afterFraction)
    | _, exponent =>
      let (power, taken) := exponent.getD (0, 0)
      .ok (.float (Binary64.ofDecimal negative (Text.digitsValue (whole ++ fraction))
        (power - fraction.length)), afterFraction.drop taken)

/-- The words that stand for a value. -/
def words : List (Text × Value) :=
  [("null", .null), ("true", .bool true), ("false", .bool false), ("NaN", .float .nan),
   ("Infinity", .float (.infinite false)), ("-Infinity", .float (.infinite true))]

def readScalar (text : Text) : Step Value :=
  let word? := words.findSome? fun (word, value) =>
    (text.afterPrefix? word).map fun rest => (value, rest)
  match word? with
  | some found => .ok found
  | none => readNumber text

mutual

/-- A value at the beginning of a text. -/
def readValue : (fuel : Nat) → Text → Step Value
  | 0, text => stopAt .value text
  | fuel + 1, text =>
    match text with
    | .char '"' :: rest =>
      match readString text.length fuel rest with
      | .error stop => .error stop
      | .ok (string, after) => .ok (.str string, after)
    | .char '[' :: rest =>
      match skip rest with
      | .char ']' :: after => .ok (.list [], after)
      | items =>
        match readItems fuel items with
        | .error stop => .error stop
        | .ok (values, after) => .ok (.list values, after)
    | .char '\x7b' :: rest =>
      match skip rest with
      | .char '\x7d' :: after => .ok (.object [], after)
      | members =>
        match readMembers fuel [] members with
        | .error stop => .error stop
        | .ok (found, after) => .ok (.object found, after)
    | _ => readScalar text

/-- The items of a list up to its closing bracket. -/
def readItems : (fuel : Nat) → Text → Step (List Value)
  | 0, text => stopAt .value text
  | fuel + 1, text =>
    match readValue fuel text with
    | .error stop => .error stop
    | .ok (value, rest) =>
      match skip rest with
      | .char ']' :: after => .ok ([value], after)
      | .char ',' :: more =>
        match readItems fuel (skip more) with
        | .error stop => .error stop
        | .ok (values, after) => .ok (value :: values, after)
      | other => stopAt .comma other

/-- The members of an object up to its closing brace, stored after those already
read. -/
def readMembers : (fuel : Nat) → List (Text × Value) → Text → Step (List (Text × Value))
  | 0, _, text => stopAt .propertyName text
  | fuel + 1, members, text =>
    match text with
    | .char '"' :: rest =>
      match readString text.length fuel rest with
      | .error stop => .error stop
      | .ok (key, afterKey) =>
        match skip afterKey with
        | .char ':' :: afterColon =>
          match readValue fuel (skip afterColon) with
          | .error stop => .error stop
          | .ok (value, afterValue) =>
            let members := Members.insert key value members
            match skip afterValue with
            | .char '\x7d' :: after => .ok (members, after)
            | .char ',' :: more => readMembers fuel members (skip more)
            | other => stopAt .comma other
        | other => stopAt .colon other
    | _ => stopAt .propertyName text

end

/-- A place in a text as a fault: the line and the column are counted from one. -/
def Stop.toFault (text : Text) : Stop → Fault
  | .digits count => .tooManyDigits count
  | .expected reason left =>
    let offset := text.length - left
    let before := text.take offset
    .malformed reason (1 + before.count (.char '\n'))
      (1 + (before.reverse.takeWhile (· ≠ .char '\n')).length) offset

/-- The value that a whole text writes. -/
def read (text : Text) : Except Fault Value :=
  match readValue (text.length + 1) (skip text) with
  | .error stop => .error (stop.toFault text)
  | .ok (value, rest) =>
    match skip rest with
    | [] => .ok value
    | other => .error ((Stop.expected .endOfText other.length).toFault text)

end SamlAdmin.Json
