import SamlAdmin.FieldMap
import SamlAdmin.ProviderId
import SamlAdmin.Url.Acceptance

/-!
# Drafts

A draft collects the fields of a configuration that is to be created or updated.
Setters only refuse values of a kind that no field may hold; everything else is
checked when the draft is turned into a request, field by field in a fixed order,
and the first fault is reported.

A draft for a new configuration needs an ID and the five fields that describe the
two parties.  A draft for an update is checked in the fields that were set, and
clears the display name when it is set to the empty text.
-/

namespace SamlAdmin

/-- The fields of a draft. -/
inductive Field where
  | idpEntityId
  | ssoUrl
  | certificates
  | rpEntityId
  | callbackUrl
  | enabled
  | requestSigning
  | displayName
  deriving DecidableEq

namespace Field

/-- The dotted path of a field in the resource. -/
def path : Field → Text
  | .idpEntityId => "idpConfig.idpEntityId"
  | .ssoUrl => "idpConfig.ssoUrl"
  | .certificates => "idpConfig.idpCertificates"
  | .rpEntityId => "spConfig.spEntityId"
  | .callbackUrl => "spConfig.callbackUri"
  | .enabled => "enabled"
  | .requestSigning => "idpConfig.signRequest"
  | .displayName => "displayName"

def label : Field → Text
  | .idpEntityId => "idp_entity_id"
  | .ssoUrl => "sso_url"
  | .certificates => "x509_certificates"
  | .rpEntityId => "rp_entity_id"
  | .callbackUrl => "callback_url"
  | .enabled => "enabled"
  | .requestSigning => "request_signing_enabled"
  | .displayName => "display_name"

/-- The fields in the order in which they are checked. -/
def all : List Field :=
  [.idpEntityId, .ssoUrl, .certificates, .rpEntityId, .callbackUrl, .enabled, .requestSigning,
   .displayName]

/-- Whether a new configuration needs a field. -/
def isRequired : Field → Bool
  | .idpEntityId | .ssoUrl | .certificates | .rpEntityId | .callbackUrl => true
  | .enabled | .requestSigning | .displayName => false

end Field

namespace Draft

/-- Why a draft cannot be turned into a request. -/
inductive Fault where
  | providerId (invalid : ProviderId.Invalid)
  | noFields (request : Text)
  | empty (field : Field)
  | unacceptable (field : Field) (refusal : Url.Refusal)
  | emptyCertificate
  | notBoolean (field : Field)
  | notText (field : Field)

def Fault.message : Fault → Text
  | .providerId invalid => invalid.message
  | .noFields request =>
    ("no parameters specified in the " : Text) ++ request ++ (" request" : Text)
  | .empty field => field.label ++ (" must not be empty" : Text)
  | .unacceptable field refusal =>
    ("failed to parse " : Text) ++ field.label ++ (": " : Text) ++ refusal.message
  | .emptyCertificate => Field.certificates.label ++ (" must not contain empty strings" : Text)
  | .notBoolean field => field.label ++ (" must be a boolean" : Text)
  | .notText field => field.label ++ (" must be a string" : Text)

/-- Check that a leaf is a text that is not empty. -/
def checkText (field : Field) : Option Leaf → Except Fault Unit
  | some (.text (_ :: _)) => .ok ()
  | _ => .error (.empty field)

/-- Check that a leaf is an absolute URL. -/
def checkUrl (field : Field) : Option Leaf → Except Fault Unit
  | some (.text (first :: rest)) => (Url.check (first :: rest)).mapError (.unacceptable field)
  | _ => .error (.empty field)

/-- Check that a leaf is a list of certificates none of which is empty. -/
def checkCertificates (field : Field) : Option Leaf → Except Fault Unit
  | some (.certificates (first :: rest)) =>
    if (first :: rest).any (·.pem.isEmpty) then .error .emptyCertificate else .ok ()
  | _ => .error (.empty field)

/-- Check that a leaf, if there is one, is a flag. -/
def checkFlag (field : Field) : Option Leaf → Except Fault Unit
  | none | some (.flag _) => .ok ()
  | _ => .error (.notBoolean field)

/-- Check that a leaf, if there is one, is a text or clears the field. -/
def checkOptionalText (field : Field) : Option Leaf → Except Fault Unit
  | none | some .cleared | some (.text _) => .ok ()
  | _ => .error (.notText field)

/-- Check what a field holds. -/
def checkField : Field → Option Leaf → Except Fault Unit
  | .idpEntityId => checkText .idpEntityId
  | .ssoUrl => checkUrl .ssoUrl
  | .certificates => checkCertificates .certificates
  | .rpEntityId => checkText .rpEntityId
  | .callbackUrl => checkUrl .callbackUrl
  | .enabled => checkFlag .enabled
  | .requestSigning => checkFlag .requestSigning
  | .displayName => checkOptionalText .displayName

/-- Check some fields in order, up to the first fault. -/
def checkFields (fields : FieldMap) : List Field → Except Fault Unit
  | [] => .ok ()
  | field :: rest =>
    match checkField field (fields.leaf? field.path) with
    | .error fault => .error fault
    | .ok () => checkFields fields rest

/-- Why a setter refused a value. -/
inductive Refusal where
  | certificateKind
  | field (fault : FieldMap.SetFault)

def Refusal.message : Refusal → Text
  | .certificateKind => Field.certificates.label ++ (" must be a list of strings" : Text)
  | .field fault => fault.message

/-- The certificates that a list of texts writes. -/
def certificatesOf : List Value → Option (List Certificate)
  | [] => some []
  | .str pem :: rest => (certificatesOf rest).map (⟨pem⟩ :: ·)
  | _ :: _ => none

/-- The value that is stored for an argument of a setter. -/
def stored : Field → Value → Except Refusal Value
  | .certificates, .list items | .certificates, .tuple items =>
    match certificatesOf items with
    | some certificates => .ok (.list (certificates.map .certificate))
    | none => .error .certificateKind
  | .certificates, _ => .error .certificateKind
  | _, argument => .ok argument

def setField (field : Field) (argument : Value) (fields : FieldMap) : Except Refusal FieldMap :=
  match stored field argument with
  | .error refusal => .error refusal
  | .ok value => (fields.set (.str field.path) value).mapError .field

end Draft

/-- A draft of a new configuration. -/
structure CreateDraft where
  providerId : Value := .null
  fields : FieldMap := .empty
  deriving Inhabited

namespace CreateDraft

def set (field : Field) (argument : Value) (draft : CreateDraft) :
    Except Draft.Refusal CreateDraft :=
  (Draft.setField field argument draft.fields).map fun fields => { draft with fields }

/-- The body of the request and the ID of the new configuration. -/
def build (draft : CreateDraft) : Except Draft.Fault (FieldMap × Text) :=
  match ProviderId.validate draft.providerId with
  | .error invalid => .error (.providerId invalid)
  | .ok id =>
    if draft.fields.isEmpty then .error (.noFields "create")
    else (Draft.checkFields draft.fields Field.all).map fun _ => (draft.fields, id)

end CreateDraft

/-- A draft of changes to a configuration. -/
structure UpdateDraft where
  fields : FieldMap := .empty
  deriving Inhabited

namespace UpdateDraft

/-- The argument of a setter as an update takes it: the empty display name clears
the name that the server holds. -/
def argumentFor (field : Field) (argument : Value) : Value :=
  match field, argument with
  | .displayName, .str [] => .null
  | _, argument => argument

def set (field : Field) (argument : Value) (draft : UpdateDraft) :
    Except Draft.Refusal UpdateDraft :=
  (Draft.setField field (argumentFor field argument) draft.fields).map fun fields => { fields }

/-- The body of the request, whose mask lists the fields to change. -/
def build (draft : UpdateDraft) : Except Draft.Fault FieldMap :=
  if draft.fields.isEmpty then .error (.noFields "update")
  else
    let present := Field.all.filter fun field => (draft.fields.leaf? field.path).isSome
    (Draft.checkFields draft.fields present).map fun _ => draft.fields

end UpdateDraft

end SamlAdmin
