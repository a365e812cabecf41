import SamlAdmin.Draft.Setter
import SamlAdmin.Resource.Reading
import SamlAdmin.Transport

/-!
# The client

A client manages the SAML configurations of one project.  Every operation is first
checked on its own (`Operation.plan`), then sent as a single request, and the body
of the answer is read as the operation expects it.  What is refused before anything
is sent and what goes wrong afterwards are different faults.
-/

namespace SamlAdmin

/-- What can be asked of a client. -/
inductive Operation where
  | get (id : Value)
  | create (draft : Option AnyDraft)
  | update (id : Value) (draft : Option AnyDraft)
  | delete (id : Value)
  | list (pageToken maxResults : Value)

/-- Why an operation is refused before anything is sent. -/
inductive ArgumentFault where
  | providerId (invalid : ProviderId.Invalid)
  | unencodable (fault : Unencodable)
  | noDraft
  | draft (fault : Draft.Fault)
  | createFromUpdate
  | updateFromCreate
  | pageToken
  | maxResults

/-- The most configurations that a page may hold. -/
def maxPageSize : Nat := 100

def ArgumentFault.message : ArgumentFault → Text
  | .providerId invalid => invalid.message
  | .unencodable fault => fault.utf8Message
  | .noDraft => "config must not be None"
  | .draft fault => fault.message
  | .createFromUpdate => "cannot unpack non-iterable NestedMap object"
  | .updateFromCreate => "'tuple' object has no attribute 'update_mask'"
  | .pageToken => "page_token must be a non-empty string"
  | .maxResults =>
    ("max_results must be an integer between 1 and " : Text) ++ Text.ofNat maxPageSize

/-- A request of the admin API, relative to a project. -/
structure Plan where
  method : Text
  path : Text
  parameters : Option (List (Text × Value)) := none
  body : Value := .null
  /-- What is written to the log when the request succeeded. -/
  notice : Option Text := none

/-- The collection of configurations of a project. -/
def collectionPath : Text := "/inboundSamlConfigs"

/-- The path of the configuration with a given ID, whose octets are escaped. -/
def configPath (id : Text) : Except ArgumentFault Text :=
  match Percent.component id with
  | .error fault => .error (.unencodable fault)
  | .ok segment => .ok (collectionPath ++ ("/" : Text) ++ segment)

namespace Operation

def checkId (id : Value) : Except ArgumentFault Text :=
  (ProviderId.validate id).mapError .providerId

/-- The plan of a creation. -/
def planCreate : Option AnyDraft → Except ArgumentFault Plan
  | none => .error .noDraft
  | some (.update draft) =>
    match draft.build with
    | .error fault => .error (.draft fault)
    | .ok _ => .error .createFromUpdate
  | some (.create draft) =>
    match draft.build with
    | .error fault => .error (.draft fault)
    | .ok (fields, id) => .ok {
        method := "POST"
        path := collectionPath
        parameters := some [("inboundSamlConfigId", .str id)]
        body := fields.toBody
        notice := some (("Created SAML provider config " : Text) ++ id) }

/-- The plan of an update. -/
def planUpdate (id : Text) : Option AnyDraft → Except ArgumentFault Plan
  | none => .error .noDraft
  | some (.create draft) =>
    match draft.build with
    | .error fault => .error (.draft fault)
    | .ok _ => .error .updateFromCreate
  | some (.update draft) =>
    match draft.build with
    | .error fault => .error (.draft fault)
    | .ok fields =>
      match configPath id with
      | .error fault => .error fault
      | .ok path => .ok {
          method := "PATCH"
          path
          parameters := some [("updateMask", .str (Text.join "," fields.mask))]
          body := fields.toBody
          notice := some (("Updated SAML provider config " : Text) ++ id ++ (": " : Text)
            ++ (Value.list (fields.mask.map .str)).literal) }

/-- Whether a value can be the token of a page: null stands for the first one. -/
def isPageToken : Value → Bool
  | .null => true
  | .str (_ :: _) => true
  | _ => false

def isPageSize : Value → Bool
  | .int size => 1 ≤ size && size ≤ maxPageSize
  | _ => false

/-- The plan of a listing. -/
def planList (pageToken maxResults : Value) : Except ArgumentFault Plan :=
  if !isPageToken pageToken then .error .pageToken
  else if !isPageSize maxResults then .error .maxResults
  else .ok {
    method := "GET"
    path := collectionPath
    parameters := some (("pageSize", maxResults) :: match pageToken with
      | .null => []
      | token => [("pageToken", token)]) }

/-- A plan for the configuration with a given ID. -/
def planFor (method id : Text) (notice : Option Text) : Except ArgumentFault Plan :=
  match configPath id with
  | .error fault => .error fault
  | .ok path => .ok { method, path, notice }

/-- The request that an operation needs, if its arguments are in order. -/
def plan : Operation → Except ArgumentFault Plan
  | .get id =>
    match checkId id with
    | .error fault => .error fault
    | .ok id => planFor "GET" id none
  | .create draft => planCreate draft
  | .update id draft =>
    match checkId id with
    | .error fault => .error fault
    | .ok id => planUpdate id draft
  | .delete id =>
    match checkId id with
    | .error fault => .error fault
    | .ok id => planFor "DELETE" id (some (("Deleted SAML provider config " : Text) ++ id))
  | .list pageToken maxResults => planList pageToken maxResults

end Operation

/-- What an operation gives. -/
inductive Result where
  | config (config : ProviderConfig)
  | page (page : ConfigPage)
  | deleted
  deriving DecidableEq

namespace Client

/-- Why an operation has no result. -/
inductive Fault where
  | argument (fault : ArgumentFault)
  | noProject
  | transport (fault : Transport.Fault)
  | unexpectedConfig (refused : Refused)
  | unexpectedList (refused : Refused)

def Fault.message : Fault → Text
  | .argument fault => fault.message
  | .noProject => "project id not available"
  | .transport fault => fault.message
  | .unexpectedConfig refused =>
    ("unexpected provider config response body: " : Text) ++ refused.message
  | .unexpectedList refused => ("unexpected list response body: " : Text) ++ refused.message

end Client

namespace Operation

/-- The body that is read: a body that is missing or counts as absent is the same as
an empty object. -/
def presentBody (body : Option Value) : Value :=
  match body with
  | some body => if body.isTruthy then body else .object []
  | none => .object []

/-- Read the body of an answer as a configuration. -/
def readConfig (body : Option Value) : Except Client.Fault Result :=
  match Resource.ofBody (presentBody body) with
  | .ok resource => .ok (.config resource.toConfig)
  | .error refused => .error (.unexpectedConfig refused)

/-- Read the body of an answer as a page. -/
def readPage (body : Option Value) : Except Client.Fault Result :=
  match ResourceList.ofBody (presentBody body) with
  | .ok resources => .ok (.page resources.toPage)
  | .error refused => .error (.unexpectedList refused)

/-- Read the body of an answer to an operation. -/
def conclude (operation : Operation) (body : Option Value) : Except Client.Fault Result :=
  match operation with
  | .delete _ => .ok .deleted
  | .list _ _ => readPage body
  | .get _ | .create _ | .update _ _ => readConfig body

end Operation

/-- A client of the admin API. -/
structure Client where
  projectId : Value
  transport : Transport

/-- What can be seen of an operation. -/
structure Answer where
  outcome : Except Client.Fault Result
  sent : Option Request := none
  log : List LogRecord := []

namespace Client

/-- The headers that report the version of a client. -/
def versionHeaders (version : Text) : Headers :=
  [("X-Client-Version", ("Python/Admin/" : Text) ++ version)]

/-- A client for a project. -/
def new (projectId : Value) (endpoint version : Text) (channels : Channels) : Client where
  projectId := projectId
  transport := Transport.ofEndpoint endpoint (versionHeaders version) channels

/-- A record that a client writes. -/
def record (message : Text) : LogRecord := ⟨.info, .client, message⟩

/-- The call of a plan within a project. -/
def callOf (projectId : Value) (plan : Plan) : Call where
  method := plan.method
  path := ("/projects/" : Text) ++ projectId.plain ++ plan.path
  parameters := plan.parameters
  body := plan.body

/-- Perform an operation against a server. -/
def perform (operation : Operation) (client : Client) (server : Server) :
    Answer × Client × Server :=
  match operation.plan with
  | .error fault => ({ outcome := .error (.argument fault) }, client, server)
  | .ok plan =>
    if !client.projectId.isTruthy then ({ outcome := .error .noProject }, client, server)
    else
      let (exchange, transport, server) :=
        client.transport.request (callOf client.projectId plan) server
      let client := { client with transport }
      match exchange.outcome with
      | .error fault =>
        ({ outcome := .error (.transport fault), sent := exchange.sent, log := exchange.log },
         client, server)
      | .ok body =>
        let notices := plan.notice.toList.map record
        ({ outcome := operation.conclude body, sent := exchange.sent,
           log := exchange.log ++ notices }, client, server)

/-- Close a client. -/
def close (client : Client) : List LogRecord × Client :=
  let (log, transport) := client.transport.close
  (log, { client with transport })

end Client

end SamlAdmin
