import SamlAdmin.EnvFile
import SamlAdmin.Problem
import SamlAdmin.Text.Decimal

/-!
# Settings

The settings of the shared client come from arguments, from the environment and
from an environment file, in this order of precedence, and each setting that none
of them gives has a default.  Variables are found under their names in any case of
the letters; the project has two names, and within one source the first one counts.

A variable that is declared without a value counts as missing, and one with an
empty value does not.
-/

namespace SamlAdmin

/-- The endpoint of the admin API. -/
def Settings.defaultEndpoint : Text := "https://identitytoolkit.googleapis.com/v2beta1"

/-- The version that a client reports. -/
def Settings.defaultVersion : Text := "1.0.0"

/-- The settings of the shared client. -/
structure Settings where
  projectId : Option Text := none
  endpoint : Text := Settings.defaultEndpoint
  clientVersion : Text := Settings.defaultVersion
  requestTimeout : Binary64 := .ofInt 30
  logLevel : Text := "INFO"
  deriving DecidableEq

/-- Where settings come from besides arguments: the variables of the process and the
text of the environment file, if there is one. -/
structure Environment where
  process : List (Text × Text) := []
  file : Option Text := none

namespace Settings

/-- The names under which a setting is found. -/
structure Names where
  /-- The name of the setting itself, which reports use. -/
  plain : Text
  /-- The names of its variables, the one that counts first. -/
  variableNames : List Text
  /-- The names of its arguments, the one that counts first. -/
  argumentNames : List Text

def projectNames : Names where
  plain := "project_id"
  variableNames := ["SAML_CONFIG_PROJECT_ID", "GOOGLE_CLOUD_PROJECT"]
  argumentNames := ["SAML_CONFIG_PROJECT_ID", "GOOGLE_CLOUD_PROJECT", "project_id"]

/-- The names of a setting whose variable is its own name with the usual beginning. -/
def namesOf (plain environmental : Text) : Names where
  plain := plain
  variableNames := [environmental]
  argumentNames := [plain]

def endpointNames : Names := namesOf "endpoint" "SAML_CONFIG_ENDPOINT"

def versionNames : Names := namesOf "client_version" "SAML_CONFIG_CLIENT_VERSION"

def timeoutNames : Names :=
  namesOf "request_timeout_seconds" "SAML_CONFIG_REQUEST_TIMEOUT_SECONDS"

def levelNames : Names := namesOf "log_level" "SAML_CONFIG_LOG_LEVEL"

/-- A source of settings. -/
inductive Source where
  | arguments (members : List (Text × Value))
  | bindings (assigned : List EnvFile.Binding)

/-- The value of a variable: the last one whose name differs in case at most. -/
def lastValue? (bindings : List EnvFile.Binding) (name : Text) : Option Text :=
  ((bindings.filter fun binding => binding.1.sameIgnoringCase name).getLast?).bind Prod.snd

/-- What a source gives for a setting. -/
def Source.value? (names : Names) : Source → Option Value
  | .arguments members => names.argumentNames.findSome? fun name => Members.lookup name members
  | .bindings assigned =>
    (names.variableNames.findSome? (lastValue? assigned)).map .str

/-- The sources of an environment, the one that counts first. -/
def sources (environment : Environment) : List Source :=
  let process := environment.process.map fun (name, value) => (name, some value)
  .bindings process :: match environment.file with
    | some file => [.bindings (EnvFile.assignments environment.process file)]
    | none => []

def readNumber : Value → Reading Binary64
  | .float number => .ok number
  | .bool value => .ok (.ofInt (if value then 1 else 0))
  | .int value =>
    match Binary64.ofInt value with
    | .infinite _ => Reading.refuse .notNumber
    | number => .ok number
  | .str text =>
    if text.toChars?.isNone then Reading.refuse .notUnicode
    else match text.toDecimal? with
      | some number => .ok number
      | none => Reading.refuse .unclearNumber
  | .bytes octets =>
    match (Piece.strict (Utf8.pieces false octets)).toOption.bind Text.toDecimal? with
    | some number => .ok number
    | none => Reading.refuse .unclearNumber
  | _ => Reading.refuse .notNumber

/-- Read a setting from the first source that gives it, or take its default. -/
def setting {α : Type} (names : Names) (read : Value → Reading α) (default : α)
    (sources : List Source) : Reading α :=
  match sources.findSome? (Source.value? names) with
  | none => .ok default
  | some value => Reading.within (.key names.plain) (read value)

def documentName : Text := "Settings"

/-- The settings that some sources give. -/
def ofSources (sources : List Source) : Except Refused Settings :=
  let defaults : Settings := {}
  let projectId := setting projectNames (Reading.optional Reading.text) defaults.projectId sources
  let endpoint := setting endpointNames Reading.text defaults.endpoint sources
  let clientVersion := setting versionNames Reading.text defaults.clientVersion sources
  let requestTimeout := setting timeoutNames readNumber defaults.requestTimeout sources
  let logLevel := setting levelNames Reading.text defaults.logLevel sources
  let all := projectId.both (endpoint.both (clientVersion.both (requestTimeout.both logLevel)))
  (all.map fun (projectId, endpoint, clientVersion, requestTimeout, logLevel) =>
    { projectId, endpoint, clientVersion, requestTimeout, logLevel }).mapError (⟨documentName, ·⟩)

/-- The settings of an environment. -/
def load (environment : Environment) : Except Refused Settings :=
  ofSources (sources environment)

/-- The settings that arguments give, with the variables of the process behind them
and without the environment file. -/
def ofArguments (arguments : List (Text × Value)) (environment : Environment) :
    Except Refused Settings :=
  ofSources (.arguments arguments :: sources { environment with file := none })

end Settings

end SamlAdmin
