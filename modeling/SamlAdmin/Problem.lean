import SamlAdmin.Members
import SamlAdmin.Text.Utf8
import SamlAdmin.Value

/-!
# Problems of a document

A document that is not of the expected shape is refused with all of its problems,
in the order of the expected fields, and each problem says at which place it was
found.  A reading is therefore a value or a list of problems, and two readings side
by side collect the problems of both.
-/

namespace SamlAdmin

/-- One step on the way to a place in a document. -/
inductive PlaceStep where
  | key (name : Text)
  | index (position : Nat)
  deriving DecidableEq

/-- What is wrong at one place. -/
inductive ProblemKind where
  | notText
  | notUnicode
  | notFlag
  | unclearFlag
  | notSection (name : Text)
  | notList
  | notNumber
  | unclearNumber
  deriving DecidableEq

/-- The tag that reports carry for a kind of problem. -/
def ProblemKind.tag : ProblemKind → Text
  | .notText => "string_type"
  | .notUnicode => "string_unicode"
  | .notFlag => "bool_type"
  | .unclearFlag => "bool_parsing"
  | .notSection _ => "model_type"
  | .notList => "list_type"
  | .notNumber => "float_type"
  | .unclearNumber => "float_parsing"

def ProblemKind.message : ProblemKind → Text
  | .notText => "Input should be a valid string"
  | .notUnicode => "Input should be a valid string, unable to parse raw data as a unicode string"
  | .notFlag => "Input should be a valid boolean"
  | .unclearFlag => "Input should be a valid boolean, unable to interpret input"
  | .notSection name => ("Input should be a valid dictionary or instance of " : Text) ++ name
  | .notList => "Input should be a valid list"
  | .notNumber => "Input should be a valid number"
  | .unclearNumber => "Input should be a valid number, unable to parse string as a number"

/-- A problem and its place. -/
structure Problem where
  kind : ProblemKind
  place : List PlaceStep := []
  deriving DecidableEq

/-- The problems of a document with a given name, reported as a whole. -/
structure Refused where
  document : Text
  problems : List Problem
  deriving DecidableEq

/-- The first line of a report. -/
def Refused.message (refused : Refused) : Text :=
  Text.ofNat refused.problems.length
    ++ (if refused.problems.length = 1 then " validation error for " else " validation errors for ")
    ++ refused.document

/-- The result of reading a part of a document. -/
abbrev Reading (α : Type) := Except (List Problem) α

namespace Reading

/-- A reading that failed with one problem where it started. -/
def refuse {α : Type} (kind : ProblemKind) : Reading α := .error [{ kind }]

/-- A reading as seen from one step further out. -/
def within {α : Type} (step : PlaceStep) (reading : Reading α) : Reading α :=
  reading.mapError (List.map fun problem => { problem with place := step :: problem.place })

/-- Two readings side by side. -/
def both {α β : Type} (left : Reading α) (right : Reading β) : Reading (α × β) :=
  match left, right with
  | .ok left, .ok right => .ok (left, right)
  | .ok _, .error problems => .error problems
  | .error problems, .ok _ => .error problems
  | .error first, .error second => .error (first ++ second)

def items {α : Type} (item : Value → Reading α) : (position : Nat) → List Value → Reading (List α)
  | _, [] => .ok []
  | position, value :: values =>
    (both (within (.index position) (item value)) (items item (position + 1) values)).map
      fun (first, rest) => first :: rest

def list {α : Type} (item : Value → Reading α) : Value → Reading (List α)
  | .list values => items item 0 values
  | .tuple values => items item 0 values
  | _ => refuse .notList

/-- Read a text. Octets count as text when they are UTF-8. -/
def text : Value → Reading Text
  | .str value => .ok value
  | .bytes octets =>
    match Piece.strict (Utf8.pieces false octets) with
    | .ok value => .ok value
    | .error _ => refuse .notUnicode
  | _ => refuse .notText

/-- The words for a flag that is set. -/
def yesWords : List Text := ["1", "on", "t", "true", "y", "yes"]

/-- The words for a flag that is not set. -/
def noWords : List Text := ["0", "off", "f", "false", "n", "no"]

/-- Read a flag from a word, in any case of its ASCII letters. -/
def flagWord (word : Text) : Reading Bool :=
  let lowered := word.asciiLower
  if yesWords.contains lowered then .ok true
  else if noWords.contains lowered then .ok false
  else refuse .unclearFlag

/-- Read a flag from a number. -/
def flagNumber (number : Int) : Reading Bool :=
  if number = 0 then .ok false else if number = 1 then .ok true else refuse .unclearFlag

/-- The end of the range of the integers that have 64 bits. -/
def wordLimit : Int := 0x8000000000000000

/-- Read a flag. Zero and one stand for flags, and so do some words; a number that
is no integer of 64 bits is of the wrong kind. -/
def flag : Value → Reading Bool
  | .bool value => .ok value
  | .int number =>
    if -wordLimit ≤ number ∧ number < wordLimit then flagNumber number else refuse .notFlag
  | .float number =>
    match number.toInt? with
    | some integer =>
      if -wordLimit < integer ∧ integer < wordLimit then flagNumber integer else refuse .notFlag
    | none => refuse .notFlag
  | .str word => if word.toChars?.isSome then flagWord word else refuse .notUnicode
  | .bytes octets =>
    match Piece.strict (Utf8.pieces false octets) with
    | .ok word => flagWord word
    | .error _ => refuse .unclearFlag
  | _ => refuse .notFlag

/-- Read a value that may be missing as null. -/
def optional {α : Type} (read : Value → Reading α) : Value → Reading (Option α)
  | .null => .ok none
  | value => (read value).map some

/-- A field with the two names under which it is found. -/
structure FieldName where
  wire : Text
  plain : Text

/-- The name and the value that count for a field: those under the wire name, if it
is there. -/
def effective (name : FieldName) (members : List (Text × Value)) : Option (Text × Value) :=
  match Members.lookup name.wire members with
  | some value => some (name.wire, value)
  | none => (Members.lookup name.plain members).map fun value => (name.plain, value)

/-- Read a field of an object, or take a default where it is missing. -/
def field {α : Type} (name : FieldName) (read : Value → Reading α) (default : α)
    (members : List (Text × Value)) : Reading α :=
  match effective name members with
  | none => .ok default
  | some (key, value) => within (.key key) (read value)

/-- Read an object as a section with a given name. -/
def sectionOf {α : Type} (name : Text) (read : List (Text × Value) → Reading α) :
    Value → Reading α
  | .object members => read members
  | _ => refuse (.notSection name)

end Reading

end SamlAdmin
