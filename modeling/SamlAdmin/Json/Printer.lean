import SamlAdmin.Value

/-!
# Writing JSON

`Json.print` writes a value as JSON text.  Text is written with the escapes that
JSON demands and no others.  Values that have no JSON form are refused, and so are
numbers that are not finite unless the style allows the words for them.
-/

namespace SamlAdmin.Json

/-- How a JSON text is laid out, and whether it may hold the words for numbers
that are not finite. -/
structure Style where
  itemSeparator : Text
  keySeparator : Text
  allowsWords : Bool

/-- The style of request bodies: no space at all and finite numbers only. -/
def Style.compact : Style := ⟨",", ":", false⟩

/-- The style with a space after every comma and colon. -/
def Style.spaced : Style := ⟨", ", ": ", true⟩

/-- Why a value has no JSON text. -/
inductive PrintFault where
  | notFinite
  | unsupported (kind : Text)
  deriving DecidableEq

def PrintFault.message : PrintFault → Text
  | .notFinite => "Out of range float values are not JSON compliant"
  | .unsupported kind => ("Object of type " : Text) ++ kind ++ (" is not JSON serializable" : Text)

/-- How one code point is written inside a string. -/
def escapePoint (point : CodePoint) : Text :=
  match point with
  | .char '"' => "\\\""
  | .char '\\' => "\\\\"
  | .char '\n' => "\\n"
  | .char '\r' => "\\r"
  | .char '\t' => "\\t"
  | .char '\x0C' => "\\f"
  | .char '\x08' => "\\b"
  | point => if point.toNat < 0x20 then ("\\u" : Text) ++ Text.ofHex 4 point.toNat else [point]

def printString (string : Text) : Text :=
  .char '"' :: (string.flatMap escapePoint ++ [.char '"'])

def printFloat (style : Style) (value : Binary64) : Except PrintFault Text :=
  match value with
  | .finite .. => .ok (value.toText .json)
  | _ => if style.allowsWords then .ok (value.toText .json) else .error .notFinite

mutual

/-- The JSON text of a value. -/
def print (style : Style) : Value → Except PrintFault Text
  | .null => .ok "null"
  | .bool true => .ok "true"
  | .bool false => .ok "false"
  | .int value => .ok (Text.ofInt value)
  | .float value => printFloat style value
  | .str value => .ok (printString value)
  | .list items => (printItems style items).map fun texts =>
      .char '[' :: (Text.join style.itemSeparator texts ++ [.char ']'])
  | .tuple items => (printItems style items).map fun texts =>
      .char '[' :: (Text.join style.itemSeparator texts ++ [.char ']'])
  | .object members => (printMembers style members).map fun texts =>
      .char '\x7b' :: (Text.join style.itemSeparator texts ++ [.char '\x7d'])
  | value => .error (.unsupported value.kind)

def printItems (style : Style) : List Value → Except PrintFault (List Text)
  | [] => .ok []
  | item :: items =>
    match print style item with
    | .error fault => .error fault
    | .ok text => (printItems style items).map (text :: ·)

def printMembers (style : Style) : List (Text × Value) → Except PrintFault (List Text)
  | [] => .ok []
  | (key, value) :: members =>
    match print style value with
    | .error fault => .error fault
    | .ok text =>
      (printMembers style members).map ((printString key ++ style.keySeparator ++ text) :: ·)

end

end SamlAdmin.Json
