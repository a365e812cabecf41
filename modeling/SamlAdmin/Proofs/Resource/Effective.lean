import SamlAdmin.Proofs.Resource.Agreement

/-!
# Bodies that are read alike

What is read of a body depends on the members that count, and on nothing else.  Bodies that
agree are both read, as the same resource, or both refused, with the same problems in the same
order.  The places of two such problems have the same steps, but for the name under which a
field was found.
-/

namespace SamlAdmin

/-! ## Places and problems up to the names of fields -/

namespace Reading

def fieldNames : List FieldName :=
  [⟨"x509Certificate", "x509_certificate"⟩, ⟨"idpEntityId", "idp_entity_id"⟩,
   ⟨"ssoUrl", "sso_url"⟩, ⟨"idpCertificates", "idp_certificates"⟩,
   ⟨"signRequest", "sign_request"⟩, ⟨"spEntityId", "sp_entity_id"⟩,
   ⟨"callbackUri", "callback_uri"⟩, ⟨"name", "name"⟩, ⟨"idpConfig", "idp_config"⟩,
   ⟨"spConfig", "sp_config"⟩, ⟨"displayName", "display_name"⟩, ⟨"enabled", "enabled"⟩,
   ⟨"inboundSamlConfigs", "inbound_saml_configs"⟩, ⟨"nextPageToken", "next_page_token"⟩]

end Reading

/-- Whether two steps are the same, or go to the same field under one of its names each. -/
inductive PlaceStep.Alike : PlaceStep → PlaceStep → Prop where
  | same (step : PlaceStep) : Alike step step
  | spelled {name : Reading.FieldName} (isField : name ∈ Reading.fieldNames) {left right : Text}
      (leftName : left = name.wire ∨ left = name.plain)
      (rightName : right = name.wire ∨ right = name.plain) : Alike (.key left) (.key right)

/-- Whether two problems are of the same kind and at the same place up to the names of fields. -/
structure Problem.Alike (left right : Problem) : Prop where
  kind_eq : left.kind = right.kind
  place : List.Forall₂ PlaceStep.Alike left.place right.place

/-- Whether two reports are about the same document and list the same problems in order. -/
structure Refused.Alike (left right : Refused) : Prop where
  document_eq : left.document = right.document
  problems : List.Forall₂ Problem.Alike left.problems right.problems

/-- Whether two bodies were taken with the same result, or refused with the same report. -/
inductive SameOutcome {α : Type} : Except Refused α → Except Refused α → Prop where
  | taken (result : α) : SameOutcome (.ok result) (.ok result)
  | refused {left right : Refused} (alike : left.Alike right) :
      SameOutcome (.error left) (.error right)

theorem Problem.Alike.refl (problem : Problem) : problem.Alike problem where
  kind_eq := rfl
  place := List.forall₂_same.mpr fun step _ => .same step

/-! ## Readings up to the names of fields -/

namespace Reading

/-- Whether two readings have the same result or the same problems. -/
inductive Alike {α : Type} : Reading α → Reading α → Prop where
  | read (result : α) : Alike (.ok result) (.ok result)
  | refused {left right : List Problem} (each : List.Forall₂ Problem.Alike left right) :
      Alike (.error left) (.error right)

namespace Alike

variable {α β : Type}

theorem refl (reading : Reading α) : reading.Alike reading := by
  cases reading with
  | ok result => exact .read result
  | error problems => exact .refused (List.forall₂_same.mpr fun problem _ => .refl problem)

variable {left right : Reading α}

theorem map (alike : left.Alike right) (change : α → β) :
    Alike (left.map change) (right.map change) := by
  cases alike with
  | read result => exact .read (change result)
  | refused each => exact .refused each

theorem within (alike : left.Alike right) {leftStep rightStep : PlaceStep}
    (step : leftStep.Alike rightStep) :
    Alike (left.within leftStep) (right.within rightStep) := by
  cases alike with
  | read result => exact .read result
  | refused each =>
      apply Alike.refused
      rw [List.forall₂_map_left_iff, List.forall₂_map_right_iff]
      refine each.imp fun first second problem => ?_
      exact ⟨problem.kind_eq, .cons step problem.place⟩

theorem both {leftOther rightOther : Reading β} (first : left.Alike right)
    (second : leftOther.Alike rightOther) :
    Alike (left.both leftOther) (right.both rightOther) := by
  cases first with
  | read result =>
      cases second with
      | read other => exact .read (result, other)
      | refused others => exact .refused others
  | refused each =>
      cases second with
      | read other => exact .refused each
      | refused others => exact .refused (List.rel_append each others)

end Alike

/-- Whether a reading makes no difference between values that agree. -/
def Respects {α : Type} (read : Value → Reading α) (agree : Value → Value → Prop) : Prop :=
  ∀ left right, agree left right → (read left).Alike (read right)

variable {α : Type} {read : Value → Reading α} {agree : Value → Value → Prop}

theorem respects_eq (read : Value → Reading α) : Respects read Eq := by
  intro left right same
  rw [same]
  exact .refl _

theorem key_of_effective {name : FieldName} {members : List (Text × Value)} {key : Text}
    {value : Value} (found : effective name members = some (key, value)) :
    key = name.wire ∨ key = name.plain := by
  rw [effective] at found
  cases wired : Members.lookup name.wire members with
  | some value =>
      rw [wired] at found
      cases found
      exact Or.inl rfl
  | none =>
      rw [wired] at found
      obtain ⟨_, _, same⟩ := Option.map_eq_some_iff.mp found
      cases same
      exact Or.inr rfl

/-- A field is read alike where the members that count for it agree. -/
theorem Respects.field (respects : Respects read agree) {name : FieldName}
    (isField : name ∈ fieldNames) (default : α) {left right : List (Text × Value)}
    (agreed : Option.Rel agree ((Value.object left).member? name)
      ((Value.object right).member? name)) :
    Alike (Reading.field name read default left) (Reading.field name read default right) := by
  rw [Reading.field, Reading.field]
  rw [Value.member?, Value.member?] at agreed
  cases inLeft : effective name left with
  | none =>
      cases inRight : effective name right with
      | none => exact .read default
      | some member =>
          rw [inLeft, inRight] at agreed
          cases agreed
  | some member =>
      cases inRight : effective name right with
      | none =>
          rw [inLeft, inRight] at agreed
          cases agreed
      | some other =>
          rw [inLeft, inRight] at agreed
          cases agreed with
          | some values =>
              have step := PlaceStep.Alike.spelled isField (key_of_effective inLeft)
                (key_of_effective inRight)
              exact (respects _ _ values).within step

theorem Respects.items (respects : Respects read agree) {left right : List Value}
    (each : List.Forall₂ agree left right) (position : Nat) :
    Alike (Reading.items read position left) (Reading.items read position right) := by
  induction each generalizing position with
  | nil => exact .read []
  | cons first _ ih =>
      rw [Reading.items, Reading.items]
      exact (((respects _ _ first).within (.same _)).both (ih (position + 1))).map _

theorem Respects.list (respects : Respects read agree) :
    Respects (Reading.list read) (Value.AgreeItemwise agree) := by
  intro left right agreed
  cases agreed with
  | same => exact .refl _
  | lists each => exact respects.items each 0

theorem respects_sectionOf {name : Text} {read : List (Text × Value) → Reading α}
    {fields : List (FieldName × (Value → Value → Prop))}
    (respects : ∀ left right, (∀ field ∈ fields, Option.Rel field.2
      ((Value.object left).member? field.1) ((Value.object right).member? field.1)) →
      (read left).Alike (read right)) :
    Respects (sectionOf name read) (Value.AgreeOn fields) := by
  intro left right agreed
  cases agreed with
  | same => exact .refl _
  | objects each => exact respects _ _ each

/-! ## Resources -/

theorem respects_certificate :
    Respects Certificate.read (Value.AgreeOn Value.certificateFields) := by
  intro left right agreed
  cases agreed with
  | same => exact .refl _
  | objects each =>
      have pem := each _ List.mem_cons_self
      exact ((respects_eq text).field (by simp [fieldNames]) [] pem).map Certificate.mk

theorem respects_idpSection : Respects IdpSection.read (Value.AgreeOn Value.idpFields) := by
  apply respects_sectionOf
  intro left right each
  simp only [Value.idpFields, List.forall_mem_cons] at each
  obtain ⟨entityId, ssoUrl, certificates, signRequest, _⟩ := each
  apply Alike.map
  apply ((respects_eq text).field (by simp [fieldNames]) [] entityId).both
  apply ((respects_eq text).field (by simp [fieldNames]) [] ssoUrl).both
  apply (respects_certificate.list.field (by simp [fieldNames]) [] certificates).both
  exact (respects_eq flag).field (by simp [fieldNames]) false signRequest

theorem respects_spSection : Respects SpSection.read (Value.AgreeOn Value.spFields) := by
  apply respects_sectionOf
  intro left right each
  simp only [Value.spFields, List.forall_mem_cons] at each
  obtain ⟨entityId, callbackUri, _⟩ := each
  apply Alike.map
  apply ((respects_eq text).field (by simp [fieldNames]) [] entityId).both
  exact (respects_eq text).field (by simp [fieldNames]) [] callbackUri

theorem respects_resource : Respects Resource.read (Value.AgreeOn Value.resourceFields) := by
  apply respects_sectionOf
  intro left right each
  simp only [Value.resourceFields, List.forall_mem_cons] at each
  obtain ⟨name, idp, sp, displayName, enabled, _⟩ := each
  apply Alike.map
  apply ((respects_eq text).field (by simp [fieldNames]) [] name).both
  apply (respects_idpSection.field (by simp [fieldNames]) {} idp).both
  apply (respects_spSection.field (by simp [fieldNames]) {} sp).both
  apply ((respects_eq text).field (by simp [fieldNames]) [] displayName).both
  exact (respects_eq flag).field (by simp [fieldNames]) false enabled

theorem respects_resourceList :
    Respects ResourceList.read (Value.AgreeOn Value.listFields) := by
  apply respects_sectionOf
  intro left right each
  simp only [Value.listFields, List.forall_mem_cons] at each
  obtain ⟨resources, nextPageToken, _⟩ := each
  apply Alike.map
  apply (respects_resource.list.field (by simp [fieldNames]) [] resources).both
  exact (respects_eq (optional text)).field (by simp [fieldNames]) none nextPageToken

/-- What is read alike is taken or refused alike as a document. -/
theorem Alike.sameOutcome {left right : Reading α} (alike : left.Alike right) (document : Text) :
    SameOutcome (left.mapError (⟨document, ·⟩)) (right.mapError (⟨document, ·⟩)) := by
  cases alike with
  | read result => exact .taken result
  | refused each => exact .refused ⟨rfl, each⟩

end Reading

/-- Bodies that agree on the members that count are taken as the same resource, or refused with
the same problems in the same order, at places that differ in no more than the names under
which fields were found.  Moving members, adding members that no field looks for or that are
hidden behind a wire name, and changing members to ones that agree, all at any level, makes
bodies that agree. -/
theorem outcome_depends_on_effective_members :
    (∀ left right, Value.AgreeOn Value.resourceFields left right →
      SameOutcome (Resource.ofBody left) (Resource.ofBody right)) ∧
    (∀ left right, Value.AgreeOn Value.listFields left right →
      SameOutcome (ResourceList.ofBody left) (ResourceList.ofBody right)) ∧
    ∀ fields ∈ Value.levels, ∀ left right, Value.Edited fields left right →
      Value.AgreeOn fields (.object left) (.object right) := by
  refine ⟨?_, ?_, ?_⟩
  · intro left right agreed
    exact (Reading.respects_resource left right agreed).sameOutcome _
  · intro left right agreed
    exact (Reading.respects_resourceList left right agreed).sameOutcome _
  · intro fields level left right edited
    exact .of_edited (Value.equivalence_of_mem_levels level) edited

/-- A body with a bad entity ID in front of a hidden one. -/
def wireBody : Value :=
  .object [("idpConfig", .object [("idpEntityId", .int 5), ("idp_entity_id", .ofString "hidden")]),
    ("enabled", .ofString "maybe")]

/-- A body with the same members that count, under plain names, in another order and among
members that no field looks for. -/
def plainBody : Value :=
  .object [("etag", .null), ("enabled", .ofString "maybe"),
    ("idp_config", .object [("etag", .null), ("idp_entity_id", .int 5)])]

/-- The two bodies are refused alike, alone and in lists, and a bad member behind a wire name
is not noticed. -/
theorem plain_body_is_refused_like_wire_body :
    (Value.AgreeOn Value.resourceFields wireBody plainBody ∧
      SameOutcome (Resource.ofBody wireBody) (Resource.ofBody plainBody) ∧
      Resource.ofBody wireBody = .error ⟨Resource.documentName,
        [⟨.notText, [.key "idpConfig", .key "idpEntityId"]⟩, ⟨.unclearFlag, [.key "enabled"]⟩]⟩ ∧
      Resource.ofBody plainBody = .error ⟨Resource.documentName,
        [⟨.notText, [.key "idp_config", .key "idp_entity_id"]⟩,
         ⟨.unclearFlag, [.key "enabled"]⟩]⟩) ∧
    SameOutcome (ResourceList.ofBody (.object [("inboundSamlConfigs", .list [wireBody])]))
      (ResourceList.ofBody (.object [("inbound_saml_configs", .list [plainBody])])) ∧
    Value.AgreeOn Value.spFields (.object [("spEntityId", .ofString "rp")])
      (.object [("spEntityId", .ofString "rp"), ("sp_entity_id", .int 5)]) := by
  obtain ⟨resources, lists, edits⟩ := outcome_depends_on_effective_members
  have idp : Value.AgreeOn Value.idpFields
      (.object [("idpEntityId", .int 5), ("idp_entity_id", .ofString "hidden")])
      (.object [("etag", .null), ("idp_entity_id", .int 5)]) := by
    apply Value.AgreeOn.objects
    simp only [Value.idpFields, List.forall_mem_cons]
    exact ⟨.some rfl, .none, .none, .none, List.forall_mem_nil _⟩
  have agreed : Value.AgreeOn Value.resourceFields wireBody plainBody := by
    apply Value.AgreeOn.objects
    simp only [Value.resourceFields, List.forall_mem_cons]
    exact ⟨.none, .some idp, .none, .none, .some rfl, List.forall_mem_nil _⟩
  refine ⟨⟨agreed, resources _ _ agreed, by rfl, by rfl⟩, lists _ _ ?_, ?_⟩
  · apply Value.AgreeOn.objects
    simp only [Value.listFields, List.forall_mem_cons]
    exact ⟨.some (.lists (.cons agreed .nil)), .none, List.forall_mem_nil _⟩
  · have passedOver : ∀ field ∈ Value.spFields, ("sp_entity_id" : Text) ≠ field.1.wire ∧
        (("sp_entity_id" : Text) = field.1.plain →
          field.1.wire ∈ [(("spEntityId", .ofString "rp") : Text × Value)].map Prod.fst) := by
      simp only [Value.spFields, List.forall_mem_cons]
      exact ⟨by decide, by decide, List.forall_mem_nil _⟩
    apply edits Value.spFields (by simp [Value.levels])
    exact @Value.Edited.hidden _ [("spEntityId", .ofString "rp")] [] "sp_entity_id" (.int 5)
      passedOver

end SamlAdmin
