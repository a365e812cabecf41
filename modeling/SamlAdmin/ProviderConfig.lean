import SamlAdmin.Text

/-!
# Provider configurations

What a caller sees of the server's data: a configuration as a flat record, and a
page of a list of configurations.
-/

namespace SamlAdmin

/-- The configuration of a SAML provider. -/
structure ProviderConfig where
  providerId : Text
  displayName : Text
  enabled : Bool
  idpEntityId : Text
  ssoUrl : Text
  requestSigning : Bool
  certificates : List Text
  rpEntityId : Text
  callbackUrl : Text
  deriving DecidableEq

/-- A page of a list of configurations. -/
structure ConfigPage where
  configs : List ProviderConfig
  nextPageToken : Option Text
  deriving DecidableEq

/-- Whether another page follows: the token for it is there and not empty. -/
def ConfigPage.hasNextPage (page : ConfigPage) : Bool :=
  match page.nextPageToken with
  | some (_ :: _) => true
  | _ => false

end SamlAdmin
