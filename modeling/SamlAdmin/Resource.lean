import SamlAdmin.ProviderConfig
import SamlAdmin.ProviderId
import SamlAdmin.Value

/-!
# The resource on the wire

The server holds a configuration as a resource with one section for the identity
provider and one for the service provider.  `Resource.toConfig` flattens it for the
caller, and `Resource.toBody` writes it under its wire names.
-/

namespace SamlAdmin

/-- The section of the identity provider. -/
structure IdpSection where
  entityId : Text := []
  ssoUrl : Text := []
  certificates : List Certificate := []
  signRequest : Bool := false
  deriving DecidableEq

/-- The section of the service provider. -/
structure SpSection where
  entityId : Text := []
  callbackUri : Text := []
  deriving DecidableEq

/-- A configuration as the server holds it. -/
structure Resource where
  name : Text := []
  idp : IdpSection := {}
  sp : SpSection := {}
  displayName : Text := []
  enabled : Bool := false
  deriving DecidableEq

/-- A list of configurations as the server sends it. -/
structure ResourceList where
  resources : List Resource := []
  nextPageToken : Option Text := none
  deriving DecidableEq

namespace Resource

/-- The configuration that a resource holds. -/
def toConfig (resource : Resource) : ProviderConfig where
  providerId := ProviderId.ofResourceName resource.name
  displayName := resource.displayName
  enabled := resource.enabled
  idpEntityId := resource.idp.entityId
  ssoUrl := resource.idp.ssoUrl
  requestSigning := resource.idp.signRequest
  certificates := resource.idp.certificates.map Certificate.pem
  rpEntityId := resource.sp.entityId
  callbackUrl := resource.sp.callbackUri

def toBody (resource : Resource) : Value :=
  .object
    [("name", .str resource.name),
     ("idpConfig", .object
       [("idpEntityId", .str resource.idp.entityId),
        ("ssoUrl", .str resource.idp.ssoUrl),
        ("idpCertificates", .list (resource.idp.certificates.map fun certificate =>
          .object [("x509Certificate", .str certificate.pem)])),
        ("signRequest", .bool resource.idp.signRequest)]),
     ("spConfig", .object
       [("spEntityId", .str resource.sp.entityId),
        ("callbackUri", .str resource.sp.callbackUri)]),
     ("displayName", .str resource.displayName),
     ("enabled", .bool resource.enabled)]

end Resource

namespace ResourceList

/-- The page that a caller sees: an empty token is the same as none. -/
def toPage (list : ResourceList) : ConfigPage where
  configs := list.resources.map Resource.toConfig
  nextPageToken := list.nextPageToken.filter (!·.isEmpty)

end ResourceList

end SamlAdmin
