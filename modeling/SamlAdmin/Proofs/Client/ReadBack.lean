import SamlAdmin.Proofs.Client.UpdateMask
import SamlAdmin.Proofs.Json.Octets
import SamlAdmin.Proofs.Resource.OfFields
import SamlAdmin.Proofs.Session.Law

/-!
# Reading back what a draft writes

A draft becomes the JSON text of a request, and a resource is read from the JSON text of
an answer.  What the one writes the other reads: the octets of a draft's body are accepted
as a resource, and its configuration has for each field what was set last, as it was
given, and nothing for a field that was never set.
-/

namespace SamlAdmin

/-! ## Fields of a configuration -/

/-- A tuple as a list; every other value as it is. -/
def Value.asList : Value → Value
  | .tuple items => .list items
  | value => value

namespace Field

/-- What a configuration has for a field, as an argument for the setter of the field. -/
def valueIn (config : ProviderConfig) : Field → Value
  | .idpEntityId => .str config.idpEntityId
  | .ssoUrl => .str config.ssoUrl
  | .certificates => .list (config.certificates.map .str)
  | .rpEntityId => .str config.rpEntityId
  | .callbackUrl => .str config.callbackUrl
  | .enabled => .bool config.enabled
  | .requestSigning => .bool config.requestSigning
  | .displayName => .str config.displayName

/-- What a configuration has for a field that is missing. -/
def emptyValue : Field → Value
  | .certificates => .list []
  | .enabled | .requestSigning => .bool false
  | .idpEntityId | .ssoUrl | .rpEntityId | .callbackUrl | .displayName => .str []

end Field

def Leaf.argument : Leaf → Value
  | .certificates value => .list (value.map fun certificate => .str certificate.pem)
  | leaf => leaf.toValue

/-- A leaf of the right kind holds the argument that it was stored for. -/
theorem DraftKind.argument_of_leafOf? {kind : DraftKind} {field : Field} {argument : Value}
    {leaf : Leaf} (isLeaf : kind.leafOf? field argument = some leaf)
    (admits : field.Admits leaf) : leaf.argument = argument.asList := by
  by_cases isCertificates : field = .certificates
  · subst isCertificates
    obtain ⟨certificates, given, rfl⟩ := certificates_of_leafOf? isLeaf
    rcases given with rfl | rfl <;> rfl
  · rw [leafOf?_of_ne_certificates isCertificates] at isLeaf
    have same : kind.argumentFor field argument = argument := by
      cases kind with
      | create => rfl
      | update =>
          apply UpdateDraft.argumentFor_of_kept
          intro isEmpty isName
          subst isEmpty isName
          cases isLeaf
          obtain ⟨text, isText⟩ := admits
          cases isText
    rw [← same, Leaf.eq_toValue_of_ofValue? isLeaf]
    cases leaf with
    | certificates certificates =>
        cases field with
        | certificates => exact absurd rfl isCertificates
        | _ =>
            obtain ⟨other, isOther⟩ := admits
            cases isOther
    | _ => rfl

namespace FieldMap

theorem valueIn_resource {fields : FieldMap} (field : Field)
    (admits : ∀ leaf, fields.find? field.segments = some leaf → field.Admits leaf) :
    field.valueIn fields.resource.toConfig =
      (fields.find? field.segments).elim field.emptyValue Leaf.argument := by
  rw [Field.segments_eq_keys] at admits ⊢
  cases found : fields.find? field.keys with
  | none => cases field <;> simp [Field.valueIn, Resource.toConfig, resource, found, Leaf.textOf,
      Leaf.flagOf, Leaf.certificatesOf, Field.emptyValue]
  | some leaf =>
      have isKind := admits leaf found
      cases field <;> obtain ⟨value, rfl⟩ := isKind <;>
        simp [Field.valueIn, Resource.toConfig, resource, found, Leaf.textOf, Leaf.flagOf,
          Leaf.certificatesOf, Leaf.argument, Leaf.toValue]

end FieldMap

theorem Operation.Planned.body_of_draft {operation : Operation} {plan : Plan} {draft : AnyDraft}
    {fields : FieldMap} (planned : operation.Planned plan)
    (given : operation.draft? = some draft) (builds : draft.Builds fields) :
    plan.body = fields.toBody := by
  cases planned with
  | create built =>
      cases given
      rw [builds.eq_fields, (AnyDraft.Builds.create built).eq_fields]
  | update formed unicode built =>
      cases given
      rw [builds.eq_fields, (AnyDraft.Builds.update built).eq_fields]
  | get => cases given
  | delete => cases given
  | firstPage => cases given
  | page => cases given

namespace AnyDraft

variable {kind : DraftKind} {last : Field → Option Value} {draft : AnyDraft} {fields : FieldMap}

/-- The body of a draft is read as the resource that its fields stand for. -/
theorem Records.ofBody_toBody (records : draft.Records kind last) (builds : draft.Builds fields)
    (noNull : fields.toBody.holdsNull = false) :
    Resource.ofBody fields.toBody = .ok fields.resource := by
  obtain rfl := builds.eq_fields
  have only : draft.fields.OnlyFields [] := by
    intro path leaf found
    obtain ⟨field, rfl⟩ := records.onlyFields path leaf found
    exact ⟨field, rfl, builds.admits noNull found⟩
  rw [Resource.ofBody, only.read_toBody records.proper]
  rfl

/-- The configuration of a draft has for each field what was given last. -/
theorem Records.valueIn_resource (records : draft.Records kind last)
    (builds : draft.Builds fields) (noNull : fields.toBody.holdsNull = false) (field : Field) :
    field.valueIn fields.resource.toConfig = (last field).elim field.emptyValue Value.asList := by
  obtain rfl := builds.eq_fields
  have admits : ∀ leaf, draft.fields.find? field.segments = some leaf → field.Admits leaf :=
    fun leaf found => builds.admits noNull found
  rw [FieldMap.valueIn_resource field admits]
  cases isGiven : last field with
  | none =>
      rw [records.notGiven field isGiven]
      rfl
  | some argument =>
      obtain ⟨leaf, isLeaf, found⟩ := records.given field argument isGiven
      rw [found]
      exact DraftKind.argument_of_leafOf? isLeaf (admits leaf found)

/-- What a draft of either kind writes is read back.  Whatever setters were called in turn,
if the draft can be built, without a null and in Unicode text, then its body has a JSON
text.  This is what is sent, its octets are accepted as a resource, and the configuration
in it has for each field what was set last, as it was given, and nothing for a field that
was never set. -/
theorem body_is_read_back {calls : List (Setter × Value)}
    (builds : (afterCalls calls kind.fresh).Builds fields)
    (noNull : fields.toBody.holdsNull = false)
    (unicode : ∀ text ∈ fields.leafTexts, text.IsUnicode) :
    ∃ text body resource, Request.bodyText fields.toBody = .ok (some text) ∧
      (∀ (operation : Operation) (client : Client) (server : Server) (request : Request),
        operation.draft? = some (afterCalls calls kind.fresh) →
        (client.perform operation server).1.sent = some request → request.body = some text) ∧
      Json.readBody (Utf8.encode text) = .ok body ∧ Resource.ofBody body = .ok resource ∧
      ∀ field : Field, field.valueIn resource.toConfig =
        (field.lastArgument none (accepted calls kind.fresh)).elim field.emptyValue
          Value.asList := by
  have records := (records_fresh kind).afterCalls calls
  have isUnicode : fields.IsUnicode := by
    rw [builds.eq_fields] at unicode ⊢
    exact records.unicodeKeys.isUnicode_iff.mpr unicode
  have proper : fields.Proper := by
    rw [builds.eq_fields]
    exact records.proper
  obtain ⟨body, written⟩ := Request.bodyText_toBody_iff.mpr isUnicode
  obtain ⟨text, rfl, printed⟩ := Request.print_of_bodyText written
  refine ⟨text, fields.toBody, fields.resource, written, ?_,
    proper.plain_toBody.readBody_encode printed, records.ofBody_toBody builds noNull,
    records.valueIn_resource builds noNull⟩
  intro operation client server request given isSent
  obtain ⟨plan, planned, _, ready⟩ := Client.sent_perform_eq_some_iff.mp isSent
  obtain ⟨_, _, body, _, _, _, sentBody, rfl⟩ := Request.prepare_eq_ok_iff.mp ready
  have same : plan.body = fields.toBody := planned.body_of_draft given builds
  rw [Client.callOf, same, written] at sentBody
  exact (Except.ok.inj sentBody).symm

/-- Calls that set one field twice, list certificates in a tuple, and fail to set a flag. -/
def partyCalls : List (Setter × Value) :=
  [(.field .idpEntityId, .str "old"), (.field .certificates, .tuple [.str "1\n", .str "2"]),
   (.field .idpEntityId, .str "\"é\""), (.field .enabled, .int 1)]

def partyFields : FieldMap :=
  .group "idpConfig"
    (.leaf "idpEntityId" (.text "\"é\"")
      (.leaf "idpCertificates" (.certificates [⟨"1\n"⟩, ⟨"2"⟩]) .empty))
    .empty

/-- An update that names the identity provider and lists two certificates is read back
with the name that was set last and both certificates, and without a flag. -/
theorem body_of_parties_is_read_back :
    (afterCalls partyCalls DraftKind.update.fresh).Builds partyFields ∧
    partyFields.toBody.holdsNull = false ∧ (∀ text ∈ partyFields.leafTexts, text.IsUnicode) ∧
    ∃ text body resource, Request.bodyText partyFields.toBody = .ok (some text) ∧
      Json.readBody (Utf8.encode text) = .ok body ∧ Resource.ofBody body = .ok resource ∧
      Field.idpEntityId.valueIn resource.toConfig = .str "\"é\"" ∧
      Field.certificates.valueIn resource.toConfig = .list [.str "1\n", .str "2"] ∧
      Field.enabled.valueIn resource.toConfig = .bool false := by
  have filled : afterCalls partyCalls DraftKind.update.fresh = .update ⟨partyFields⟩ := rfl
  have builds : (afterCalls partyCalls DraftKind.update.fresh).Builds partyFields := by
    rw [filled]
    exact .update rfl
  have unicode : ∀ text ∈ partyFields.leafTexts, text.IsUnicode := by decide
  have recorded : accepted partyCalls DraftKind.update.fresh = partyCalls.dropLast := rfl
  obtain ⟨text, body, resource, written, _, read, accepted, values⟩ :=
    body_is_read_back builds rfl unicode
  rw [recorded] at values
  exact ⟨builds, rfl, unicode, text, body, resource, written, read, accepted,
    values .idpEntityId, values .certificates, values .enabled⟩

end AnyDraft

end SamlAdmin
