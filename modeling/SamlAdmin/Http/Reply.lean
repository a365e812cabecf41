import SamlAdmin.Http.Header
import SamlAdmin.Http.Status
import SamlAdmin.Url.Join

/-!
# Replies

What comes back for a request: a response of the server, or word that there is
none.  A request that was not delivered is reported to the caller as such; a few
failures mean that the request was made in the wrong way and reach the caller as
they are.

A server is a script of replies, one for each request in turn; the last reply is
given again and again.
-/

namespace SamlAdmin

/-- A response of the server. -/
structure Response where
  status : Nat := 200
  headers : Headers := []
  body : List UInt8 := []
  deriving DecidableEq

/-- The ways in which a request may fail to be delivered. -/
inductive DeliveryKind where
  | unspecified
  | request
  | transport
  | timeout
  | connectTimeout
  | readTimeout
  | writeTimeout
  | poolTimeout
  | network
  | connect
  | read
  | write
  | close
  | protocol
  | localProtocol
  | remoteProtocol
  | proxy
  | unsupportedProtocol
  | decoding
  | tooManyRedirects
  deriving DecidableEq

namespace DeliveryKind

/-- The name under which a failure is reported. -/
def name : DeliveryKind → Text
  | .unspecified => "HTTPError"
  | .request => "RequestError"
  | .transport => "TransportError"
  | .timeout => "TimeoutException"
  | .connectTimeout => "ConnectTimeout"
  | .readTimeout => "ReadTimeout"
  | .writeTimeout => "WriteTimeout"
  | .poolTimeout => "PoolTimeout"
  | .network => "NetworkError"
  | .connect => "ConnectError"
  | .read => "ReadError"
  | .write => "WriteError"
  | .close => "CloseError"
  | .protocol => "ProtocolError"
  | .localProtocol => "LocalProtocolError"
  | .remoteProtocol => "RemoteProtocolError"
  | .proxy => "ProxyError"
  | .unsupportedProtocol => "UnsupportedProtocol"
  | .decoding => "DecodingError"
  | .tooManyRedirects => "TooManyRedirects"

def all : List DeliveryKind :=
  [.unspecified, .request, .transport, .timeout, .connectTimeout, .readTimeout, .writeTimeout,
   .poolTimeout, .network, .connect, .read, .write, .close, .protocol, .localProtocol,
   .remoteProtocol, .proxy, .unsupportedProtocol, .decoding, .tooManyRedirects]

def ofName? (name : Text) : Option DeliveryKind := all.find? (·.name = name)

end DeliveryKind

/-- The failures that say that a request was made in the wrong way. -/
inductive MisuseKind where
  | invalidUrl
  | cookieConflict
  | stream
  deriving DecidableEq

namespace MisuseKind

/-- The name under which a failure is reported. -/
def name : MisuseKind → Text
  | .invalidUrl => "InvalidURL"
  | .cookieConflict => "CookieConflict"
  | .stream => "StreamError"

def ofName? (name : Text) : Option MisuseKind :=
  [MisuseKind.invalidUrl, .cookieConflict, .stream].find? (·.name = name)

end MisuseKind

/-- What comes back for a request. -/
inductive Reply where
  | response (response : Response)
  | undelivered (kind : DeliveryKind) (message : Text)
  | misused (kind : MisuseKind) (message : Text)
  deriving DecidableEq

instance : Inhabited Reply := ⟨.response {}⟩

namespace Reply

/-- A reply to a request for an address, as it is taken.  A response that sends the caller on
breaks the protocol if its location is no address, and where the address that it leads to is
refused, the request is what was wrong. -/
def taken (asked : Target) : Reply → Reply
  | .response answer =>
    if Status.isRedirect answer.status then
      match (answer.headers.get? "Location").map Target.read with
      | none => .response answer
      | some (.error fault) => .undelivered .remoteProtocol
          (("Invalid URL in location header: " : Text) ++ fault.message ++ ("." : Text))
      | some (.ok location) =>
        match asked.redirected location with
        | .error fault => .misused .invalidUrl fault.message
        | .ok _ => .response answer
    else .response answer
  | reply => reply

end Reply

/-- A server that answers by a script. -/
structure Server where
  script : List Reply
  deriving DecidableEq

/-- The reply to the next request. -/
def Server.answer (server : Server) : Reply × Server :=
  match server.script with
  | [] => (default, server)
  | [last] => (last, server)
  | reply :: next :: script => (reply, ⟨next :: script⟩)

end SamlAdmin
