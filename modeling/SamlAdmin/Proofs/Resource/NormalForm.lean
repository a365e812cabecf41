import SamlAdmin.Proofs.Resource.Listing
import SamlAdmin.Proofs.Resource.OfFields

/-!
# The normal form of a resource

Many bodies are read as the same resource: a flag may be a word or a number, a member may be
missing or stand under its plain name, and members that no field looks for may be anywhere.
The body that is written for a resource is one of them.  It has every field once, under its
wire name and as a text, a flag, a list or an object, and reading it gives the resource back.
So reading a body and writing the resource is a normal form, and the bodies in normal form are
the ones that this leaves as they are.
-/

namespace SamlAdmin

/-! ## Records -/

namespace Value

def IsPlainText (value : Value) : Prop := ∃ text, .str text = value

def IsPlainFlag (value : Value) : Prop := ∃ flag, .bool flag = value

/-- Whether a value is an array of items of a kind. -/
def IsArrayOf (good : Value → Prop) (value : Value) : Prop :=
  ∃ items, .list items = value ∧ ∀ item ∈ items, good item

/-- Whether members are those of some fields in order, each under the wire name and of the kind
of its field. -/
def HoldInOrder (fields : List (Reading.FieldName × (Value → Prop)))
    (members : List (Text × Value)) : Prop :=
  List.Forall₂ (fun field member => member.1 = field.1.wire ∧ field.2 member.2) fields members

/-- Whether a value is an object that has every one of some fields once, and nothing else. -/
def IsRecordOf (fields : List (Reading.FieldName × (Value → Prop))) (value : Value) : Prop :=
  ∃ members, .object members = value ∧ (members.map Prod.fst).Nodup ∧ HoldInOrder fields members

def IsCertificateRecord : Value → Prop :=
  IsRecordOf [(⟨"x509Certificate", "x509_certificate"⟩, IsPlainText)]

def IsIdpRecord : Value → Prop :=
  IsRecordOf
    [(⟨"idpEntityId", "idp_entity_id"⟩, IsPlainText), (⟨"ssoUrl", "sso_url"⟩, IsPlainText),
     (⟨"idpCertificates", "idp_certificates"⟩, IsArrayOf IsCertificateRecord),
     (⟨"signRequest", "sign_request"⟩, IsPlainFlag)]

def IsSpRecord : Value → Prop :=
  IsRecordOf
    [(⟨"spEntityId", "sp_entity_id"⟩, IsPlainText),
     (⟨"callbackUri", "callback_uri"⟩, IsPlainText)]

def IsResourceRecord : Value → Prop :=
  IsRecordOf
    [(⟨"name", "name"⟩, IsPlainText), (⟨"idpConfig", "idp_config"⟩, IsIdpRecord),
     (⟨"spConfig", "sp_config"⟩, IsSpRecord), (⟨"displayName", "display_name"⟩, IsPlainText),
     (⟨"enabled", "enabled"⟩, IsPlainFlag)]

end Value

/-! ## What is written for the parts of a resource -/

def IdpSection.toBody (idp : IdpSection) : Value :=
  .object
    [("idpEntityId", .str idp.entityId), ("ssoUrl", .str idp.ssoUrl),
     ("idpCertificates", .list (idp.certificates.map Leaf.certificateBody)),
     ("signRequest", .bool idp.signRequest)]

def SpSection.toBody (sp : SpSection) : Value :=
  .object [("spEntityId", .str sp.entityId), ("callbackUri", .str sp.callbackUri)]

namespace Value

variable {value : Value}

theorem isArrayOf_iff {α : Type} {write : α → Value} {good : Value → Prop}
    (isGood : ∀ value, good value ↔ ∃ held, write held = value) :
    IsArrayOf good value ↔ ∃ list : List α, .list (list.map write) = value := by
  constructor
  · rintro ⟨items, rfl, each⟩
    induction items with
    | nil => exact ⟨[], rfl⟩
    | cons item items ih =>
        rw [List.forall_mem_cons] at each
        obtain ⟨held, rfl⟩ := (isGood item).mp each.1
        obtain ⟨list, written⟩ := ih each.2
        cases written
        exact ⟨held :: list, rfl⟩
  · rintro ⟨list, rfl⟩
    refine ⟨list.map write, rfl, ?_⟩
    rw [List.forall_mem_map]
    intro held _
    exact (isGood (write held)).mpr ⟨held, rfl⟩

section Records

variable {fields : List (Reading.FieldName × (Value → Prop))} {members : List (Text × Value)}

theorem exists_holdInOrder_nil {holds : List (Text × Value) → Prop} :
    (∃ members, HoldInOrder [] members ∧ holds members) ↔ holds [] := by
  simp only [HoldInOrder, List.forall₂_nil_left_iff, exists_eq_left]

/-- The members of a record are chosen one by one. -/
theorem exists_holdInOrder_cons {name : Reading.FieldName} {good : Value → Prop}
    {holds : List (Text × Value) → Prop} :
    (∃ members, HoldInOrder ((name, good) :: fields) members ∧ holds members) ↔
      ∃ value, good value ∧
        ∃ rest, HoldInOrder fields rest ∧ holds ((name.wire, value) :: rest) := by
  simp only [HoldInOrder, List.forall₂_cons_left_iff]
  constructor
  · rintro ⟨_, ⟨⟨key, value⟩, rest, ⟨rfl, isGood⟩, others, rfl⟩, held⟩
    exact ⟨value, isGood, rest, others, held⟩
  · rintro ⟨value, isGood, rest, others, held⟩
    exact ⟨_, ⟨(name.wire, value), rest, ⟨rfl, isGood⟩, others, rfl⟩, held⟩

theorem HoldInOrder.map_fst (inOrder : HoldInOrder fields members) :
    members.map Prod.fst = fields.map (·.1.wire) := by
  induction inOrder with
  | nil => rfl
  | cons holds _ ih => rw [List.map_cons, List.map_cons, holds.1, ih]

theorem isRecordOf_iff (distinct : (fields.map (·.1.wire)).Nodup) :
    IsRecordOf fields value ↔ ∃ members, HoldInOrder fields members ∧ .object members = value := by
  constructor
  · rintro ⟨members, rfl, _, inOrder⟩
    exact ⟨members, inOrder, rfl⟩
  · rintro ⟨members, inOrder, rfl⟩
    refine ⟨members, rfl, ?_, inOrder⟩
    rw [inOrder.map_fst]
    exact distinct

end Records

theorem isCertificateRecord_iff :
    value.IsCertificateRecord ↔ ∃ certificate, Leaf.certificateBody certificate = value := by
  rw [IsCertificateRecord, isRecordOf_iff (by decide)]
  simp only [exists_holdInOrder_cons, exists_holdInOrder_nil, IsPlainText, exists_exists_eq_and]
  constructor
  · rintro ⟨pem, written⟩
    exact ⟨⟨pem⟩, written⟩
  · rintro ⟨certificate, written⟩
    exact ⟨certificate.pem, written⟩

theorem isIdpRecord_iff : value.IsIdpRecord ↔ ∃ idp : IdpSection, idp.toBody = value := by
  rw [IsIdpRecord, isRecordOf_iff (by decide)]
  simp only [exists_holdInOrder_cons, exists_holdInOrder_nil, IsPlainText, IsPlainFlag,
    isArrayOf_iff fun _ => isCertificateRecord_iff, exists_exists_eq_and]
  constructor
  · rintro ⟨entityId, ssoUrl, certificates, signRequest, written⟩
    exact ⟨⟨entityId, ssoUrl, certificates, signRequest⟩, written⟩
  · rintro ⟨idp, written⟩
    exact ⟨idp.entityId, idp.ssoUrl, idp.certificates, idp.signRequest, written⟩

theorem isSpRecord_iff : value.IsSpRecord ↔ ∃ sp : SpSection, sp.toBody = value := by
  rw [IsSpRecord, isRecordOf_iff (by decide)]
  simp only [exists_holdInOrder_cons, exists_holdInOrder_nil, IsPlainText, exists_exists_eq_and]
  constructor
  · rintro ⟨entityId, callbackUri, written⟩
    exact ⟨⟨entityId, callbackUri⟩, written⟩
  · rintro ⟨sp, written⟩
    exact ⟨sp.entityId, sp.callbackUri, written⟩

/-- The values in the normal form of a resource are what is written for resources. -/
theorem isResourceRecord_iff :
    value.IsResourceRecord ↔ ∃ resource : Resource, resource.toBody = value := by
  rw [IsResourceRecord, isRecordOf_iff (by decide)]
  simp only [exists_holdInOrder_cons, exists_holdInOrder_nil, IsPlainText, IsPlainFlag,
    isIdpRecord_iff, isSpRecord_iff, exists_exists_eq_and]
  constructor
  · rintro ⟨name, idp, sp, displayName, enabled, written⟩
    exact ⟨⟨name, idp, sp, displayName, enabled⟩, written⟩
  · rintro ⟨resource, written⟩
    exact ⟨resource.name, resource.idp, resource.sp, resource.displayName, resource.enabled,
      written⟩

end Value

/-! ## Reading what was written -/

theorem IdpSection.read_toBody (idp : IdpSection) : IdpSection.read idp.toBody = .ok idp := by
  have certificates : Reading.list Certificate.read
      (.list (idp.certificates.map Leaf.certificateBody)) = .ok idp.certificates :=
    Leaf.items_certificateBody idp.certificates 0
  change ((Reading.within _ (.ok _)).both
    ((Reading.within _ (.ok _)).both
      ((Reading.within _ (Reading.list Certificate.read _)).both
        (Reading.within _ (.ok _))))).map _ = _
  rw [certificates]
  rfl

theorem SpSection.read_toBody (sp : SpSection) : SpSection.read sp.toBody = .ok sp := rfl

namespace Resource

theorem read_toBody (resource : Resource) : read resource.toBody = .ok resource := by
  change ((Reading.within _ (.ok _)).both
    ((Reading.within _ (IdpSection.read resource.idp.toBody)).both
      ((Reading.within _ (SpSection.read resource.sp.toBody)).both
        ((Reading.within _ (.ok _)).both (Reading.within _ (.ok _)))))).map _ = _
  rw [IdpSection.read_toBody, SpSection.read_toBody]
  rfl

theorem ofBody_toBody (resource : Resource) : ofBody resource.toBody = .ok resource :=
  ofBody_eq_ok_iff.mpr resource.read_toBody

/-- The normal forms are the bodies that reading and writing leave as they are. -/
theorem isResourceRecord_iff_unchanged {body : Value} :
    body.IsResourceRecord ↔ (ofBody body).map toBody = .ok body := by
  rw [Value.isResourceRecord_iff]
  constructor
  · rintro ⟨resource, rfl⟩
    rw [ofBody_toBody]
    rfl
  · intro unchanged
    obtain ⟨resource, _, written⟩ := map_eq_ok_iff.mp unchanged
    exact ⟨resource, written⟩

theorem idpSection_read_of_read {body idp : Value} {resource : Resource}
    (isRead : read body = .ok resource)
    (isIdp : body.member? ⟨"idpConfig", "idp_config"⟩ = some idp) :
    IdpSection.read idp = .ok resource.idp := by
  cases body with
  | object members =>
      obtain ⟨⟨_, _, _, _, _⟩, parts, rfl⟩ := map_eq_ok_iff.mp isRead
      have idpRead := (Reading.both_eq_ok_iff.mp (Reading.both_eq_ok_iff.mp parts).2).1
      rw [Reading.field_eq_ok_iff, isIdp] at idpRead
      exact idpRead
  | _ => cases isIdp

theorem certificates_in_order {value : Value} {items : List Value} {idp : IdpSection}
    (isRead : IdpSection.read value = .ok idp)
    (listed : value.member? ⟨"idpCertificates", "idp_certificates"⟩ = some (.list items)) :
    List.Forall₂ (fun item certificate => Certificate.read item = .ok certificate) items
      idp.certificates := by
  cases value with
  | object members =>
      obtain ⟨⟨_, _, _, _⟩, parts, rfl⟩ := map_eq_ok_iff.mp isRead
      have certificatesRead := (Reading.both_eq_ok_iff.mp
        (Reading.both_eq_ok_iff.mp (Reading.both_eq_ok_iff.mp parts).2).2).1
      rw [Reading.field_eq_ok_iff, listed] at certificatesRead
      exact Reading.items_eq_ok_iff.mp certificatesRead
  | _ => cases listed

/-- What is written for the resource of a body is in normal form.  Reading it gives the same
resource as reading the body, so it has the same configuration and is written in the same way.
The certificates of that configuration are those that the body lists, in the same order. -/
theorem dump_is_normal_form {body : Value} {resource : Resource}
    (accepted : ofBody body = .ok resource) :
    resource.toBody.IsResourceRecord ∧
      ofBody resource.toBody = ofBody body ∧
      ∀ again, ofBody resource.toBody = .ok again →
        again = resource ∧ again.toConfig = resource.toConfig ∧ again.toBody = resource.toBody ∧
        ∀ idp items, body.member? ⟨"idpConfig", "idp_config"⟩ = some idp →
          idp.member? ⟨"idpCertificates", "idp_certificates"⟩ = some (.list items) →
          List.Forall₂ (fun item pem => Certificate.read item = .ok ⟨pem⟩) items
            again.toConfig.certificates := by
  refine ⟨Value.isResourceRecord_iff.mpr ⟨resource, rfl⟩, ?_, ?_⟩
  · rw [ofBody_toBody, accepted]
  · intro again isRead
    obtain rfl : resource = again := Except.ok.inj (resource.ofBody_toBody.symm.trans isRead)
    refine ⟨rfl, rfl, rfl, ?_⟩
    intro idp items isIdp listed
    have idpRead := idpSection_read_of_read (ofBody_eq_ok_iff.mp accepted) isIdp
    exact List.forall₂_map_right_iff.mpr (certificates_in_order idpRead listed)

/-- The items of a list of certificates, under either name and with a hidden member. -/
def laxCertificates : List Value :=
  [.object [("x509_certificate", .ofString "second")],
   .object [("x509Certificate", .ofString "first"), ("x509_certificate", .null)]]

/-- A body with members under both kinds of names and unknown ones among them, with a flag that
is a word and another one that is a number. -/
def laxBody : Value :=
  .object
    [("etag", .null),
     ("idp_config", .object
       [("signRequest", .ofString "YES"), ("kind", .int 3),
        ("idp_certificates", .list laxCertificates)]),
     ("enabled", .float (.zero false))]

def laxResource : Resource where
  idp := { certificates := [⟨"second"⟩, ⟨"first"⟩], signRequest := true }

/-- The body is read, what is written for it is read as the same resource, and the certificates
keep their order. -/
theorem lax_body_is_read_back_from_dump :
    ofBody laxBody = .ok laxResource ∧ ofBody laxResource.toBody = ofBody laxBody ∧
      laxResource.toBody.IsResourceRecord ∧
      List.Forall₂ (fun item pem => Certificate.read item = .ok ⟨pem⟩) laxCertificates
        laxResource.toConfig.certificates := by
  have accepted : ofBody laxBody = .ok laxResource := by decide +kernel
  obtain ⟨normal, sameReading, again⟩ := dump_is_normal_form accepted
  obtain ⟨_, _, _, inOrder⟩ := again laxResource (sameReading.trans accepted)
  exact ⟨accepted, sameReading, normal, inOrder _ _ rfl rfl⟩

end Resource

end SamlAdmin
