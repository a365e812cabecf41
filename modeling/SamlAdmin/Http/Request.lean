import SamlAdmin.Http.Header
import SamlAdmin.Json.Printer
import SamlAdmin.Text.Base64
import SamlAdmin.Unicode.Case
import SamlAdmin.Url.Form
import SamlAdmin.Url.Target

/-!
# Requests

A call names a method, a path below the endpoint, query parameters, a JSON body and
headers of its own.  `Request.prepare` turns it into what goes over the wire, or
reports the first thing that cannot: the address, a header, a parameter, the address
once its query is in place, the body.
-/

namespace SamlAdmin

/-- What is asked of a transport. -/
structure Call where
  method : Text
  path : Text
  parameters : Option (List (Text × Value)) := none
  body : Value := .null
  headers : Headers := []

/-- A request as it goes over the wire. -/
structure Request where
  method : Text
  target : Target
  headers : Headers
  body : Option Text
  deriving DecidableEq

namespace Request

/-- Why a call cannot become a request. -/
inductive Fault where
  | target (fault : Target.Fault)
  | header (fault : Unencodable)
  | parameter (fault : Unencodable)
  | body (fault : Json.PrintFault)
  | bodyText (fault : Unencodable)
  deriving DecidableEq

def Fault.message : Fault → Text
  | .target fault => fault.message
  | .header fault => fault.asciiMessage
  | .parameter fault | .bodyText fault => fault.utf8Message
  | .body fault => fault.message

/-- The query that parameters write.  No parameters at all write no query. -/
def queryOf (parameters : List (Text × Value)) : Except Fault (Option Text) :=
  if parameters.isEmpty then .ok none
  else
    let pairs := Form.pairs parameters
    match Form.fault? pairs with
    | some fault => .error (.parameter fault)
    | none => .ok (some (Form.encode pairs))

/-- Parameters take the place of the query that an address has. -/
def withParameters (parameters : Option (List (Text × Value))) (target : Target) :
    Except Fault Target :=
  match parameters with
  | none => .ok target
  | some parameters =>
    match queryOf parameters with
    | .error fault => .error fault
    | .ok query => (target.withQuery query).mapError .target

/-- The JSON text of a body; null stands for no body. -/
def bodyText : Value → Except Fault (Option Text)
  | .null => .ok none
  | body =>
    match Json.print .compact body with
    | .error fault => .error (.body fault)
    | .ok text =>
      match Utf8.fault? text with
      | some fault => .error (.bodyText fault)
      | none => .ok (some text)

/-- The fields that every request carries unless it has its own. -/
def standing : Headers :=
  [("Accept", "*/*"), ("Accept-Encoding", "gzip, deflate"), ("Connection", "keep-alive"),
   ("User-Agent", "python-httpx/0.28.1")]

/-- Whether a method is expected to come with a body. -/
def wantsBody (method : Text) : Bool :=
  ([("POST" : Text), ("PUT" : Text), ("PATCH" : Text)]).contains method

/-- The fields that describe a body.  Where a body is expected and there is none, its
length is zero, unless the fields announce it in another way. -/
def withBodyFields (method : Text) (body : Option Text) (headers : Headers) : Headers :=
  match body with
  | some text =>
    (headers.orElse "Content-Length" (Text.ofNat (Utf8.encode text).length)).orElse
      "Content-Type" "application/json"
  | none =>
    if wantsBody method && (headers.get? "Transfer-Encoding").isNone then
      headers.orElse "Content-Length" "0"
    else headers

/-- The field that names the host of an address. -/
def withHost (target : Target) (headers : Headers) : Headers :=
  if target.host.isEmpty then headers else headers.orElse "Host" target.place

/-- The user and the password that an address names, if one of them is not empty. -/
def credentials? (target : Target) : Option (Text × Text) :=
  let user := target.userinfo.beforeFirst (.char ':')
  let password := target.userinfo.drop (user.length + 1)
  if user.isEmpty && password.isEmpty then none
  else some (Percent.shown user, Percent.shown password)

/-- What authorizes a user with a password. -/
def basic (user password : Text) : Text :=
  ("Basic " : Text) ++ Base64.encode (Utf8.encode (user ++ .char ':' :: password))

/-- The field that authorizes the user of an address.  It stands in for all that are
given. -/
def withCredentials (target : Target) (headers : Headers) : Headers :=
  match credentials? target with
  | none => headers
  | some (user, password) => headers.put "Authorization" (basic user password)

/-- Turn a call to an address into a request, with headers already merged.  The
method goes out in capitals. -/
def prepare (text : Text) (call : Call) (headers : Headers) : Except Fault Request :=
  match Target.parse text with
  | .error fault => .error (.target fault)
  | .ok plain =>
    match headers.check with
    | .error fault => .error (.header fault)
    | .ok () =>
      match withParameters call.parameters plain with
      | .error fault => .error fault
      | .ok target =>
        match bodyText call.body with
        | .error fault => .error fault
        | .ok body =>
          let method := call.method.upper
          let headers := withHost target (withBodyFields method body (headers.withStanding standing))
          .ok { method, target, headers := withCredentials target headers, body }

end Request

end SamlAdmin
