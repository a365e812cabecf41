import SamlAdmin.Members
import SamlAdmin.Text.Unencodable

/-!
# Headers

The headers of a request are a list of fields.  Fields of one request replace the
fields of the transport that are spelled alike; names that differ in case stay side
by side, and on the wire they are values of the same header.  Only a field that is put
over all of its name leaves no other spelling beside it.
-/

namespace SamlAdmin

/-- The fields of a request or a response. -/
abbrev Headers := List (Text × Text)

namespace Headers

/-- The fields of a transport with those of one request put over them. -/
def merge (base extra : Headers) : Headers :=
  extra.foldl (fun fields (name, value) => Members.insert name value fields) base

/-- The values under a name, in any case of its letters. -/
def values (name : Text) (fields : Headers) : List Text :=
  (fields.filter fun field => field.1.sameIgnoringCase name).map Prod.snd

/-- The values under a name as one text, if there are any. -/
def get? (name : Text) (fields : Headers) : Option Text :=
  match values name fields with
  | [] => none
  | first :: rest => some (Text.join ", " (first :: rest))

/-- A field under a name that no field has yet, in any case of its letters. -/
def orElse (name value : Text) (fields : Headers) : Headers :=
  if (fields.get? name).isSome then fields else fields ++ [(name, value)]

/-- A field that takes the place of the first one under its name, in any case of its
letters.  All others under this name go. -/
def put (name value : Text) : Headers → Headers
  | [] => [(name, value)]
  | field :: rest =>
    if field.1.sameIgnoringCase name then
      (name, value) :: rest.filter fun other => !other.1.sameIgnoringCase name
    else field :: put name value rest

/-- Standing fields behind those of a request, which replace the standing fields of
their names. -/
def withStanding (fields standing : Headers) : Headers :=
  (standing.filter fun field => (fields.get? field.1).isNone) ++ fields

/-- The first run of code points in a text that no header can carry. -/
def faultOf? : Text → Option Unencodable := Unencodable.first? CodePoint.isAscii

/-- The first fault among the names and values of fields. -/
def check (fields : Headers) : Except Unencodable Unit :=
  match fields.findSome? fun (name, value) => (faultOf? name).or (faultOf? value) with
  | some fault => .error fault
  | none => .ok ()

end Headers

end SamlAdmin
