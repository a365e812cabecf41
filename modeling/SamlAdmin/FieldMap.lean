import SamlAdmin.Text.Literal

/-!
# Field maps

A request carries only the fields that were set, nested as the resource nests them
and addressed by dotted paths such as `idpConfig.ssoUrl`.  A field map is the tree
of those fields.  Its rows stand in the order in which their keys were first used,
and a leaf is a text, a flag, the mark of a cleared field, or a list of
certificates.

`FieldMap.set` stores one leaf and refuses a path that would turn a leaf into a
group or a group into a leaf.  Two views say what a map holds: `find?` answers for
one path, and `mask` lists the paths of all leaves.
-/

namespace SamlAdmin

/-- What one field of a request holds. -/
inductive Leaf where
  | text (value : Text)
  | flag (value : Bool)
  | cleared
  | certificates (value : List Certificate)
  deriving DecidableEq, Inhabited

namespace Leaf

def certificates? : List Value → Option (List Certificate)
  | [] => some []
  | .certificate certificate :: values => (certificates? values).map (certificate :: ·)
  | _ :: _ => none

/-- The leaf that a value is, if it is of a kind that a field may hold. -/
def ofValue? : Value → Option Leaf
  | .null => some .cleared
  | .bool value => some (.flag value)
  | .str value => some (.text value)
  | .list values => (certificates? values).map .certificates
  | _ => none

/-- A leaf as the value that was stored. -/
def toValue : Leaf → Value
  | .text value => .str value
  | .flag value => .bool value
  | .cleared => .null
  | .certificates value => .list (value.map .certificate)

/-- A certificate as a member of a request body. -/
def certificateBody (certificate : Certificate) : Value :=
  .object [("x509Certificate", .str certificate.pem)]

def toBody : Leaf → Value
  | .certificates value => .list (value.map certificateBody)
  | leaf => leaf.toValue

theorem certificates?_map (value : List Certificate) :
    certificates? (value.map .certificate) = some value := by
  induction value with
  | nil => rfl
  | cons certificate rest ih => simp [certificates?, ih]

@[simp] theorem ofValue?_toValue (leaf : Leaf) : ofValue? leaf.toValue = some leaf := by
  cases leaf <;> simp [toValue, ofValue?, certificates?_map]

theorem eq_map_of_certificates? {values : List Value} {certificates : List Certificate}
    (read : certificates? values = some certificates) : values = certificates.map .certificate := by
  induction values generalizing certificates with
  | nil =>
      cases read
      rfl
  | cons value values ih =>
      cases value with
      | certificate certificate =>
          rw [certificates?, Option.map_eq_some_iff] at read
          obtain ⟨others, readOthers, rfl⟩ := read
          rw [List.map_cons, ← ih readOthers]
      | _ => cases read

theorem eq_toValue_of_ofValue? {value : Value} {leaf : Leaf}
    (isLeaf : ofValue? value = some leaf) : value = leaf.toValue := by
  cases value with
  | list values =>
      obtain ⟨certificates, read, rfl⟩ := Option.map_eq_some_iff.mp isLeaf
      rw [toValue, ← eq_map_of_certificates? read]
  | null =>
      cases isLeaf
      rfl
  | bool flag =>
      cases isLeaf
      rfl
  | str text =>
      cases isLeaf
      rfl
  | _ => cases isLeaf

end Leaf

/-- A tree of fields.  Every row has a key; it is a leaf, or a group with rows of
its own. -/
inductive FieldMap where
  | empty
  | leaf (key : Text) (value : Leaf) (rest : FieldMap)
  | group (key : Text) (children rest : FieldMap)
  deriving DecidableEq, Inhabited

namespace FieldMap

/-- The sign between the segments of a path. -/
def separator : CodePoint := .char '.'

def segments (path : Text) : List Text := path.splitOn separator

def pathOf (parts : List Text) : Text := Text.join [separator] parts

/-- How a leaf cannot be put at a path: a leaf stands at a shorter path, or the
path leads to a group. -/
inductive Conflict where
  | underLeaf (above : List Text)
  | overGroup
  deriving DecidableEq

/-- A conflict as seen from one group further out. -/
def Conflict.within (key : Text) : Conflict → Conflict
  | .underLeaf above => .underLeaf (key :: above)
  | .overGroup => .overGroup

/-- A single field at a path of segments. -/
def single (value : Leaf) (key : Text) : (more : List Text) → FieldMap
  | [] => .leaf key value .empty
  | next :: more => .group key (single value next more) .empty

/-- Put a leaf at the path that begins with `key`.  A leaf that stands there keeps
its place and takes the new value; groups on the way are made as needed. -/
def insert (value : Leaf) (key : Text) (more : List Text) : FieldMap → Except Conflict FieldMap
  | .empty => .ok (single value key more)
  | .leaf name old rest =>
    if name = key then
      match more with
      | [] => .ok (.leaf name value rest)
      | _ :: _ => .error (.underLeaf [name])
    else
      match insert value key more rest with
      | .ok rest => .ok (.leaf name old rest)
      | .error conflict => .error conflict
  | .group name children rest =>
    if name = key then
      match more with
      | [] => .error .overGroup
      | next :: more =>
        match insert value next more children with
        | .ok children => .ok (.group name children rest)
        | .error conflict => .error (conflict.within name)
    else
      match insert value key more rest with
      | .ok rest => .ok (.group name children rest)
      | .error conflict => .error conflict

/-- The leaf at a path of segments. -/
def find? : (path : List Text) → FieldMap → Option Leaf
  | _, .empty => none
  | [], _ => none
  | key :: more, .leaf name value rest =>
    if name = key then (if more.isEmpty then some value else none) else find? (key :: more) rest
  | key :: more, .group name children rest =>
    if name = key then find? more children else find? (key :: more) rest

/-- The paths of all leaves, in order. -/
def mask : FieldMap → List Text
  | .empty => []
  | .leaf key _ rest => key :: mask rest
  | .group key children rest => (mask children).map (key ++ separator :: ·) ++ mask rest

/-- The number of rows, not counting those inside groups. -/
def size : FieldMap → Nat
  | .empty => 0
  | .leaf _ _ rest => rest.size + 1
  | .group _ _ rest => rest.size + 1

/-- Whether no field was set. -/
def isEmpty : FieldMap → Bool
  | .empty => true
  | _ => false

/-- The members of the request body that a map stands for. -/
def members : FieldMap → List (Text × Value)
  | .empty => []
  | .leaf key value rest => (key, value.toBody) :: members rest
  | .group key children rest => (key, .object (members children)) :: members rest

def toBody (fields : FieldMap) : Value := .object fields.members

/-- A map as a literal. -/
def literal (fields : FieldMap) : Text :=
  ("NestedMap(" : Text) ++ fields.toBody.literal ++ (")" : Text)

/-- Why a value was not stored. -/
inductive SetFault where
  | invalidPath (path : Value)
  | unsupported (path kind : Text)
  | underLeaf (path above : Text)
  | overGroup (path : Text)

def SetFault.message : SetFault → Text
  | .invalidPath path => ("invalid field path: " : Text) ++ path.literal
  | .unsupported path kind =>
    ("unsupported value for '" : Text) ++ path ++ ("': " : Text) ++ kind
      ++ (" (expected str, bool, None or a list of IdpCertificate)" : Text)
  | .underLeaf path above =>
    ("cannot set '" : Text) ++ path ++ ("': '" : Text) ++ above
      ++ ("' already holds a value" : Text)
  | .overGroup path =>
    ("cannot set '" : Text) ++ path ++ ("': it already holds nested fields" : Text)

/-- Store a leaf at a path that is known to be well formed. -/
def setLeaf (path : Text) (value : Leaf) (fields : FieldMap) : Except SetFault FieldMap :=
  match segments path with
  | [] => .error (.invalidPath (.str path))
  | key :: more =>
    match insert value key more fields with
    | .ok fields => .ok fields
    | .error (.underLeaf above) => .error (.underLeaf path (pathOf above))
    | .error .overGroup => .error (.overGroup path)

/-- Store a value at a path.  A path is a text without an empty segment. -/
def set (path value : Value) (fields : FieldMap) : Except SetFault FieldMap :=
  match path with
  | .str path =>
    if (segments path).any List.isEmpty then .error (.invalidPath (.str path))
    else
      match Leaf.ofValue? value with
      | none => .error (.unsupported path value.kind)
      | some stored => setLeaf path stored fields
  | path => .error (.invalidPath path)

/-- The value at a path, or another one if there is none. -/
def get (path otherwise : Value) (fields : FieldMap) : Except Value.SplitFault Value :=
  match path.toSplittable with
  | .error fault => .error fault
  | .ok path =>
    match fields.find? (segments path) with
    | some found => .ok found.toValue
    | none => .ok otherwise

/-- The leaf at a dotted path. -/
def leaf? (path : Text) (fields : FieldMap) : Option Leaf := fields.find? (segments path)

/-- Whether a leaf stands at a path. -/
def contains (path : Value) (fields : FieldMap) : Bool :=
  match path with
  | .str path => (fields.leaf? path).isSome
  | _ => false

end FieldMap

end SamlAdmin
