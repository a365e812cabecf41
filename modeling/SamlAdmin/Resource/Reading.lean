import SamlAdmin.Problem
import SamlAdmin.Resource

/-!
# Reading resources

A body is read as a resource field by field.  Every field may come under its wire
name or under its plain name, the wire name counts when both are there, and fields
that are missing have their defaults.  Members that no field names are passed over.
-/

namespace SamlAdmin

def Certificate.read : Value → Reading Certificate
  | .certificate certificate => .ok certificate
  | value =>
    Reading.sectionOf "IdpCertificate" (fun members =>
      (Reading.field ⟨"x509Certificate", "x509_certificate"⟩ Reading.text [] members).map
        Certificate.mk) value

def IdpSection.read : Value → Reading IdpSection :=
  Reading.sectionOf "IdpConfig" fun members =>
    let entityId := Reading.field ⟨"idpEntityId", "idp_entity_id"⟩ Reading.text [] members
    let ssoUrl := Reading.field ⟨"ssoUrl", "sso_url"⟩ Reading.text [] members
    let certificates := Reading.field ⟨"idpCertificates", "idp_certificates"⟩
      (Reading.list Certificate.read) [] members
    let signRequest := Reading.field ⟨"signRequest", "sign_request"⟩ Reading.flag false members
    (entityId.both (ssoUrl.both (certificates.both signRequest))).map
      fun (entityId, ssoUrl, certificates, signRequest) =>
        { entityId, ssoUrl, certificates, signRequest }

def SpSection.read : Value → Reading SpSection :=
  Reading.sectionOf "SpConfig" fun members =>
    let entityId := Reading.field ⟨"spEntityId", "sp_entity_id"⟩ Reading.text [] members
    let callbackUri := Reading.field ⟨"callbackUri", "callback_uri"⟩ Reading.text [] members
    (entityId.both callbackUri).map fun (entityId, callbackUri) => { entityId, callbackUri }

namespace Resource

def documentName : Text := "SAMLProviderConfigResource"

def read : Value → Reading Resource :=
  Reading.sectionOf documentName fun members =>
    let name := Reading.field ⟨"name", "name"⟩ Reading.text [] members
    let idp := Reading.field ⟨"idpConfig", "idp_config"⟩ IdpSection.read {} members
    let sp := Reading.field ⟨"spConfig", "sp_config"⟩ SpSection.read {} members
    let displayName := Reading.field ⟨"displayName", "display_name"⟩ Reading.text [] members
    let enabled := Reading.field ⟨"enabled", "enabled"⟩ Reading.flag false members
    (name.both (idp.both (sp.both (displayName.both enabled)))).map
      fun (name, idp, sp, displayName, enabled) => { name, idp, sp, displayName, enabled }

/-- Take a body as a resource, or report what is wrong with it. -/
def ofBody (body : Value) : Except Refused Resource := (read body).mapError (⟨documentName, ·⟩)

end Resource

namespace ResourceList

def documentName : Text := "ListSAMLProviderConfigsResponse"

def read : Value → Reading ResourceList :=
  Reading.sectionOf documentName fun members =>
    let resources := Reading.field ⟨"inboundSamlConfigs", "inbound_saml_configs"⟩
      (Reading.list Resource.read) [] members
    let nextPageToken := Reading.field ⟨"nextPageToken", "next_page_token"⟩
      (Reading.optional Reading.text) none members
    (resources.both nextPageToken).map fun (resources, nextPageToken) =>
      { resources, nextPageToken }

/-- Take a body as a list of resources, or report what is wrong with it. -/
def ofBody (body : Value) : Except Refused ResourceList :=
  (read body).mapError (⟨documentName, ·⟩)

end ResourceList

end SamlAdmin
