import SamlAdmin.Text.Blank
import SamlAdmin.Value

/-!
# Errors of the server

An answer that is no success carries a status and often a code, such as
`CONFIGURATION_NOT_FOUND : detail`.  The code decides what kind of error it is by
the part before its first colon; a code that says nothing leaves the decision to
the status.
-/

namespace SamlAdmin

/-- The kinds of error that callers can tell apart. -/
inductive ErrorKind where
  | notFound
  | alreadyExists
  | permissionDenied
  | unauthenticated
  | other
  deriving DecidableEq, Inhabited

namespace ErrorKind

/-- The kinds by the codes of the server. -/
def codes : List (Text × ErrorKind) :=
  [("CONFIGURATION_NOT_FOUND", .notFound),
   ("DUPLICATE_IDP_CONFIG", .alreadyExists),
   ("CONFIGURATION_EXISTS", .alreadyExists),
   ("INSUFFICIENT_PERMISSION", .permissionDenied),
   ("PERMISSION_DENIED", .permissionDenied),
   ("UNAUTHENTICATED", .unauthenticated)]

/-- The kind that a status stands for. -/
def ofStatus (status : Int) : ErrorKind :=
  if status = 401 then .unauthenticated
  else if status = 403 then .permissionDenied
  else if status = 404 then .notFound
  else if status = 409 then .alreadyExists
  else .other

/-- The part of a code that decides: what stands before its first colon, without
blanks around it. -/
def significant (code : Text) : Text := (code.beforeFirst (.char ':')).trimBlank

/-- The kind that a code stands for, if it is a known one. -/
def ofCode? (code : Text) : Option ErrorKind := codes.lookup (significant code)

/-- The kind of an error with a code and a status. -/
def ofAnswer (status : Int) (code : Text) : ErrorKind := (ofCode? code).getD (ofStatus status)

end ErrorKind

/-- An error that the server reported. -/
structure ServerError where
  kind : ErrorKind
  status : Int
  code : Value
  message : Text

namespace ServerError

/-- The error for an answer.  A code that is missing or empty is passed over; any
other code has to be a text. -/
def classify (status : Int) (code : Value) (message : Text) :
    Except Value.SplitFault ServerError :=
  if code.isTruthy then
    code.toSplittable.map fun text => ⟨.ofAnswer status text, status, code, message⟩
  else .ok ⟨.ofStatus status, status, code, message⟩

end ServerError

end SamlAdmin
