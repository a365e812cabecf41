import SamlAdmin.Text

/-!
# Log records

What the library writes to its log: a level, the part of the library that writes,
and a sentence.
-/

namespace SamlAdmin

/-- The levels that the library writes at. -/
inductive LogLevel where
  | debug
  | info
  | warning
  deriving DecidableEq

def LogLevel.name : LogLevel → Text
  | .debug => "DEBUG"
  | .info => "INFO"
  | .warning => "WARNING"

/-- The rank of a level: a filter lets through what has at least its own rank. -/
def LogLevel.rank : LogLevel → Nat
  | .debug => 10
  | .info => 20
  | .warning => 30

/-- The parts of the library that write records. -/
inductive LogSource where
  | transport
  | client
  | factory
  deriving DecidableEq

def LogSource.name : LogSource → Text
  | .transport => "saml_config_client.infrastructure.http.client"
  | .client => "saml_config_client.core.saml.client"
  | .factory => "saml_config_client.core.saml.factory"

/-- A record of the log. -/
structure LogRecord where
  level : LogLevel
  source : LogSource
  message : Text
  deriving DecidableEq

/-- The threshold of a log: the rank below which records are dropped. A threshold
that is not set leaves the decision to a wider one, which stands at warnings. -/
inductive LogThreshold where
  | unset
  | debug
  | info
  | warning
  | error
  | critical
  deriving DecidableEq, Inhabited

namespace LogThreshold

def name : LogThreshold → Text
  | .unset => "NOTSET"
  | .debug => "DEBUG"
  | .info => "INFO"
  | .warning => "WARNING"
  | .error => "ERROR"
  | .critical => "CRITICAL"

def ofName? (given : Text) : Option LogThreshold :=
  if given = ("WARN" : Text) then some .warning
  else if given = ("FATAL" : Text) then some .critical
  else [unset, debug, info, warning, error, critical].find? (·.name = given)

/-- The rank from which a threshold lets records through. -/
def rank : LogThreshold → Nat
  | .debug => 10
  | .info => 20
  | .unset | .warning => 30
  | .error => 40
  | .critical => 50

/-- The records that a threshold lets through. -/
def passing (threshold : LogThreshold) (records : List LogRecord) : List LogRecord :=
  records.filter fun record => threshold.rank ≤ record.level.rank

end LogThreshold

end SamlAdmin
