import SamlAdmin.Binary64

/-!
# Dynamic values

Arguments of the draft setters, JSON bodies and query parameters may hold
anything.  `Value` is the type of such data: the JSON values, with integers of
any size apart from floating point numbers and with the members of an object in
order, and beside them the few kinds of argument that are no JSON.
-/

namespace SamlAdmin

/-- An X.509 certificate in PEM form, as the identity provider section of a
configuration lists it. -/
structure Certificate where
  pem : Text
  deriving DecidableEq, Inhabited

/-- Any piece of data that may be given as an argument or read from a body. -/
inductive Value where
  | null
  | bool (value : Bool)
  | int (value : Int)
  | float (value : Binary64)
  | str (value : Text)
  | list (items : List Value)
  | object (members : List (Text × Value))
  | bytes (octets : List UInt8)
  | tuple (items : List Value)
  | certificate (value : Certificate)
  | emptyMap
  | bareObject
  deriving Inhabited

namespace Value

instance : Coe Text Value := ⟨.str⟩

def ofString (string : String) : Value := .str (Text.ofString string)

/-- The word for the kind of a value, as messages name it. -/
def kind : Value → Text
  | .null => "NoneType"
  | .bool _ => "bool"
  | .int _ => "int"
  | .float _ => "float"
  | .str _ => "str"
  | .list _ => "list"
  | .object _ => "dict"
  | .bytes _ => "bytes"
  | .tuple _ => "tuple"
  | .certificate _ => "IdpCertificate"
  | .emptyMap => "NestedMap"
  | .bareObject => "object"

/-- Whether a value counts as present: null, false, zero and everything empty do
not. -/
def isTruthy : Value → Bool
  | .null => false
  | .bool value => value
  | .int value => value ≠ 0
  | .float value => !value.isZero
  | .str value => !value.isEmpty
  | .list items => !items.isEmpty
  | .object members => !members.isEmpty
  | .bytes octets => !octets.isEmpty
  | .tuple items => !items.isEmpty
  | .certificate _ => true
  | .emptyMap => false
  | .bareObject => true

/-- Why a value cannot be cut into parts at a separator: it has no parts at all, or
it is a run of octets, whose parts would need a separator made of octets. -/
inductive SplitFault where
  | noParts (kind : Text)
  | octets
  deriving DecidableEq

def SplitFault.message : SplitFault → Text
  | .noParts kind => ("'" : Text) ++ kind ++ ("' object has no attribute 'split'" : Text)
  | .octets => "a bytes-like object is required, not 'str'"

/-- The text that a value is, where one is needed that can be cut into parts. -/
def toSplittable : Value → Except SplitFault Text
  | .str text => .ok text
  | .bytes _ => .error .octets
  | value => .error (.noParts value.kind)

end Value

end SamlAdmin
