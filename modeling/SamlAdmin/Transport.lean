import SamlAdmin.Channels
import SamlAdmin.Http.ContentType
import SamlAdmin.Http.Reply
import SamlAdmin.Http.Request
import SamlAdmin.Json.Body
import SamlAdmin.Log
import SamlAdmin.ServerError

/-!
# The transport

A transport is bound to one endpoint.  It sends JSON requests with its own headers,
reads JSON from the responses, and turns everything that is no success into a
fault.  The encodings that its platform knows beside the listed ones come with it.  `Transport.request` runs one call against a server; an `Exchange` is what
can be seen of it: the outcome, the request that was sent, if any, and the records
that were written to the log.
-/

namespace SamlAdmin

/-- The text of the body of a response, under the encoding that its content type names.
Where there is no body, nobody asks for the encoding. -/
def Response.text (codecs : Codecs) (response : Response) : Except Unreadable Text :=
  if response.body.isEmpty then .ok []
  else
    match ContentType.encoding codecs (response.headers.get? "Content-Type") with
    | .error reason => .error reason
    | .ok encoding => encoding.decode response.body

/-- A transport. -/
structure Transport where
  endpoint : Text
  headers : Headers
  channels : Channels
  codecs : Codecs := .none

namespace Transport

/-- A transport for an endpoint, whose closing slashes are dropped. -/
def ofEndpoint (endpoint : Text) (headers : Headers) (channels : Channels) : Transport where
  endpoint := Text.dropEndWhile (· = .char '/') endpoint
  headers := headers
  channels := channels

/-- Why a call has no result. -/
inductive Fault where
  | unprepared (fault : Request.Fault)
  | undelivered (method : Text) (kind : DeliveryKind) (message : Text)
  | misused (kind : MisuseKind) (message : Text)
  | server (error : ServerError)
  | code (fault : Value.SplitFault)
  | unreadable (reason : Unreadable)
  | undecodable (fault : Json.Fault)

def Fault.message : Fault → Text
  | .unprepared fault => fault.message
  | .undelivered method _ message =>
    ("failed to send " : Text) ++ method ++ (" request: " : Text) ++ message
  | .misused _ message => message
  | .server error => error.message
  | .code fault => fault.message
  | .unreadable reason => reason.message
  | .undecodable fault => ("failed to decode response body: " : Text) ++ fault.message

/-- The code of an error that a body reports, if it has the shape of a report. -/
def codeOf (body : Value) : Value :=
  match body with
  | .object members =>
    match Members.lookup "error" members with
    | some (.object error) => (Members.lookup "message" error).getD .null
    | _ => .null
  | _ => .null

/-- The code of the error that a response reports. -/
def errorCode (response : Response) : Value :=
  match Json.readBody response.body with
  | .ok body => codeOf body
  | .error _ => .null

/-- What the message of an error says where there is no code: the body as text, or
the phrase of the status when the body is empty. -/
def detail (codecs : Codecs) (response : Response) : Except Unreadable Text :=
  match response.text codecs with
  | .error reason => .error reason
  | .ok [] => .ok (Status.phrase response.status)
  | .ok text => .ok text

/-- The sentence for an error with a code. -/
def codeMessage (status : Nat) (code : Value) : Text :=
  code.plain ++ (" (HTTP " : Text) ++ Text.ofNat status ++ (")" : Text)

/-- The sentence for an error without a code. -/
def plainMessage (status : Nat) (detail : Text) : Text :=
  ("unexpected HTTP response with status " : Text) ++ Text.ofNat status ++ (": " : Text) ++ detail

/-- The fault that a response without success stands for. -/
def faultOf (codecs : Codecs) (response : Response) : Fault :=
  let code := errorCode response
  let message : Except Unreadable Text :=
    if code.isTruthy then .ok (codeMessage response.status code)
    else (detail codecs response).map (plainMessage response.status)
  match message with
  | .error reason => .unreadable reason
  | .ok message =>
    match ServerError.classify response.status code message with
    | .ok error => .server error
    | .error fault => .code fault

/-- The body of a response with success, if there is one. -/
def bodyOf (response : Response) : Except Fault (Option Value) :=
  match response.body with
  | [] => .ok none
  | octets =>
    match Json.readBody octets with
    | .ok body => .ok (some body)
    | .error fault => .error (.undecodable fault)

/-- A record that the transport writes. -/
def record (level : LogLevel) (message : Text) : LogRecord := ⟨level, .transport, message⟩

/-- What becomes of a reply: a result or a fault, and the records about it.  The
`heading` names the method and the address. -/
def conclude (codecs : Codecs) (method heading : Text) :
    Reply → Except Fault (Option Value) × List LogRecord
  | .undelivered kind message =>
    (.error (.undelivered method kind message),
     [record .warning (heading ++ (" failed: " : Text) ++ message)])
  | .misused kind message => (.error (.misused kind message), [])
  | .response response =>
    if Status.isSuccess response.status then (bodyOf response, [])
    else
      match faultOf codecs response with
      | .server error =>
        (.error (.server error),
         [record .warning (heading ++ (" returned HTTP " : Text) ++ Text.ofNat response.status
           ++ (": " : Text) ++ error.message)])
      | fault => (.error fault, [])

end Transport

/-- What can be seen of a call. -/
structure Exchange (α : Type) where
  outcome : Except Transport.Fault α
  sent : Option Request
  log : List LogRecord

namespace Transport

/-- Run a call against a server. -/
def request (call : Call) (transport : Transport) (server : Server) :
    Exchange (Option Value) × Transport × Server :=
  let address := transport.endpoint ++ call.path
  let heading := call.method ++ (" " : Text) ++ address
  let announced := record .debug (heading ++ (" params=" : Text)
    ++ (Value.object (call.parameters.getD [])).literal)
  let (_, channels) := transport.channels.acquire
  let transport := { transport with channels }
  match Request.prepare address call (transport.headers.merge call.headers) with
  | .error fault =>
    ({ outcome := .error (.unprepared fault), sent := none, log := [announced] },
     transport, server)
  | .ok sent =>
    let (reply, server) := server.answer
    let (outcome, log) := conclude transport.codecs call.method heading (reply.taken sent.target)
    ({ outcome, sent := some sent, log := announced :: log }, transport, server)

/-- Close the channel of a transport, if it owns one. -/
def close (transport : Transport) : List LogRecord × Transport :=
  let (closed, channels) := transport.channels.close
  (if closed then [record .debug "HTTP client closed"] else [], { transport with channels })

end Transport

end SamlAdmin
