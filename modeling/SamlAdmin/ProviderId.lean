import SamlAdmin.Text.Literal

/-!
# Provider IDs

A SAML provider is named by an ID that begins with `saml.`.  The ID becomes one
segment of a request path, so it must not hold a sign that would end the segment.
A resource name of the server ends with the ID as its last segment.
-/

namespace SamlAdmin.ProviderId

def beginning : Text := "saml."

/-- The signs that would end the segment of a path. -/
def delimiters : Text := "/?#\\"

def isValid (id : Text) : Bool :=
  (id.afterPrefix? beginning).isSome && !id.any delimiters.contains

/-- The reason why a value is no ID. -/
structure Invalid where
  given : Value

def Invalid.message (invalid : Invalid) : Text :=
  ("invalid SAML provider id: " : Text) ++ invalid.given.literal

/-- Take a value as an ID. -/
def validate : Value → Except Invalid Text
  | .str id => if isValid id then .ok id else .error ⟨.str id⟩
  | given => .error ⟨given⟩

/-- The ID at the end of a resource name. -/
def ofResourceName (name : Text) : Text := name.afterLast (.char '/')

/-- The ID at the end of a value that should be a resource name. -/
def extract (name : Value) : Except Value.SplitFault Text := name.toSplittable.map ofResourceName

theorem validate_eq_ok_iff {given : Value} {id : Text} :
    validate given = .ok id ↔ given = .str id ∧ isValid id = true := by
  cases given <;> simp [validate]
  case str text =>
    split
    · next valid => simp; grind
    · next invalid => simp; grind

end SamlAdmin.ProviderId
