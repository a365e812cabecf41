import SamlAdmin.Client
import SamlAdmin.Settings
import SamlAdmin.Unicode.Case

/-!
# The shared client

One client is shared by the whole process.  It is made on first use from the
settings of the environment, which are read once and then kept, whatever becomes of
the environment.  Making it also sets the threshold of the log.

Clients and settings carry serial numbers, so that it can be told whether two
requests for one got the same.
-/

namespace SamlAdmin

/-- Something that was made, with its serial number. -/
structure Numbered (α : Type) where
  number : Nat
  content : α

/-- What the process keeps of settings and the shared client. -/
structure Factory where
  environment : Environment := {}
  threshold : LogThreshold := .unset
  settings : Option (Numbered Settings) := none
  client : Option (Numbered Client) := none
  settingsMade : Nat := 0
  clientsMade : Nat := 0

namespace Factory

/-- Why there is no client, or why there are no settings. -/
inductive Fault where
  | settings (refused : Refused)
  | unknownLevel (name : Text)

def Fault.message : Fault → Text
  | .settings refused => refused.message
  | .unknownLevel name => ("Unknown level: " : Text) ++ name.quoted

/-- The settings that are kept, or else those of the environment, which are kept from
then on. -/
def getSettings (factory : Factory) : Except Fault (Numbered Settings) × Factory :=
  match factory.settings with
  | some settings => (.ok settings, factory)
  | none =>
    match Settings.load factory.environment with
    | .error refused => (.error (.settings refused), factory)
    | .ok content =>
      let settings := ⟨factory.settingsMade, content⟩
      (.ok settings,
       { factory with settings := some settings, settingsMade := factory.settingsMade + 1 })

/-- The client that settings describe. -/
def clientOf (settings : Settings) : Client :=
  Client.new ((settings.projectId.map Value.str).getD .null) settings.endpoint
    settings.clientVersion (Channels.ofLimits (TimeLimits.all (.float settings.requestTimeout)))

/-- A record that the factory writes. -/
def record (level : LogLevel) (message : Text) : LogRecord := ⟨level, .factory, message⟩

/-- What is written when a client is made. -/
def announcement (settings : Settings) : List LogRecord :=
  let named := match settings.projectId with
    | some (_ :: _) => []
    | _ => [record .warning
        "No project ID configured. Set SAML_CONFIG_PROJECT_ID or GOOGLE_CLOUD_PROJECT."]
  let projectId := ((settings.projectId.map Value.str).getD .null).plain
  named ++ [record .info
    (("Provider config client initialized for project: " : Text) ++ projectId)]

/-- The shared client, which is made if there is none. -/
def getClient (factory : Factory) :
    Except Fault (Numbered Client) × List LogRecord × Factory :=
  match factory.client with
  | some client => (.ok client, [], factory)
  | none =>
    match factory.getSettings with
    | (.error fault, factory) => (.error fault, [], factory)
    | (.ok settings, factory) =>
      let level := settings.content.logLevel.upper
      match LogThreshold.ofName? level with
      | none => (.error (.unknownLevel level), [], factory)
      | some threshold =>
        let client := ⟨factory.clientsMade, clientOf settings.content⟩
        (.ok client, threshold.passing (announcement settings.content),
         { factory with
           threshold
           client := some client
           clientsMade := factory.clientsMade + 1 })

/-- Use the shared client, so that it opens a channel. -/
def touch (factory : Factory) : Except Fault Unit × List LogRecord × Factory :=
  match factory.getClient with
  | (.error fault, log, factory) => (.error fault, log, factory)
  | (.ok client, log, factory) =>
    let transport := client.content.transport
    let (_, channels) := transport.channels.acquire
    let content := { client.content with transport := { transport with channels } }
    (.ok (), log, { factory with client := some { client with content } })

/-- Close the shared client and drop it. -/
def close (factory : Factory) : List LogRecord × Factory :=
  match factory.client with
  | none => ([], factory)
  | some client =>
    let (log, _) := client.content.close
    (factory.threshold.passing log, { factory with client := none })

/-- Drop the shared client as it is. -/
def reset (factory : Factory) : Factory := { factory with client := none }

/-- Forget the settings, so that they are read again. -/
def forgetSettings (factory : Factory) : Factory := { factory with settings := none }

end Factory

end SamlAdmin
