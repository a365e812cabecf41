import SamlAdmin.Proofs.Client.Sending
import SamlAdmin.Proofs.Draft.History
import SamlAdmin.Proofs.FieldMap.Leaves

/-!
# The mask of an update and its body

The mask in the address of an update and the fields in its body are written by two
recursions over one map.  What is sent agrees all the same: the mask lists the leaves of
the body in order, these are the fields that were set, and each leaf is what was set
last.
-/

namespace SamlAdmin

namespace Request

theorem print_of_bodyText {members : List (Text × Value)} {text : Option Text}
    (written : bodyText (.object members) = .ok text) :
    ∃ printed, text = some printed ∧ Json.print .compact (.object members) = .ok printed := by
  rw [bodyText] at written
  · cases printed : Json.print .compact (.object members) with
    | error fault =>
        rw [printed] at written
        cases written
    | ok json =>
        rw [printed] at written
        cases refused : Utf8.fault? json with
        | some fault =>
            simp only [refused] at written
            cases written
        | none =>
            simp only [refused] at written
            cases written
            exact ⟨json, rfl, rfl⟩
  · intro isNull
    cases isNull

end Request

/-- The paths of fields do not hold the sign that separates them in a mask. -/
theorem Field.noComma_path (field : Field) : (.char ',' : CodePoint) ∉ field.path := by
  cases field <;> decide

namespace UpdateDraft.Holds

variable {last : Field → Option Value} {fields : FieldMap}

theorem mem_mask_iff (holds : Holds last fields) {path : Text} :
    path ∈ fields.mask ↔ ∃ field : Field, path = field.path ∧ (last field).isSome = true := by
  rw [holds.proper.mem_mask_iff, FieldMap.leaf?]
  constructor
  · intro found
    obtain ⟨leaf, isFound⟩ := Option.isSome_iff_exists.mp found
    obtain ⟨field, argument, same, given, _⟩ := holds.sound _ _ isFound
    exact ⟨field, FieldMap.segments_injective same, by rw [given]; rfl⟩
  · rintro ⟨field, rfl, given⟩
    obtain ⟨argument, isGiven⟩ := Option.isSome_iff_exists.mp given
    exact holds.complete field argument isGiven

/-- The value of a field in the body is the image of the argument that was set last. -/
theorem at?_toBody (holds : Holds last fields) {field : Field} {argument : Value}
    (given : last field = some argument) :
    fields.toBody.at? field.segments = some (field.image argument) := by
  obtain ⟨leaf, found⟩ := Option.isSome_iff_exists.mp (holds.complete field argument given)
  obtain ⟨other, otherArgument, same, otherGiven, body⟩ := holds.sound _ _ found
  obtain rfl := Field.segments_injective same
  rw [given] at otherGiven
  cases otherGiven
  rw [FieldMap.at?_toBody found, body]

theorem splitOn_join_mask (holds : Holds last fields) (filled : fields.isEmpty = false) :
    Text.splitOn (.char ',') (Text.join "," fields.mask) = fields.mask := by
  have comma : ("," : Text) = [.char ','] := by decide
  have nonempty : fields ≠ .empty := by
    rintro rfl
    cases filled
  rw [comma]
  apply Text.splitOn_join
  · rw [FieldMap.mask_eq_map_paths]
    simpa using holds.proper.paths_ne_nil nonempty
  · intro path member
    obtain ⟨field, rfl, _⟩ := holds.mem_mask_iff.mp member
    exact field.noComma_path

end UpdateDraft.Holds

namespace Client

/-- The mask of an update that is sent lists the leaves of its body, in order and each
of them once.  These are the paths of the fields whose setter succeeded, and at each path
stands the image of what was set last. -/
theorem mask_agrees_with_body {calls : List (Setter × Value)} {id : Value} {client : Client}
    {server : Server} {request : Request}
    (isSent : (client.perform (.update id (some (AnyDraft.afterCalls calls (.update {}))))
      server).1.sent = some request) :
    ∃ query mask text body,
      request.target.query = some query ∧ Form.decode query = [(("updateMask" : Text), mask)] ∧
      request.body = some text ∧ Json.read text = .ok body ∧
      Text.splitOn (.char ',') mask = body.dottedPaths ∧ body.dottedPaths.Nodup ∧
      (∀ path, path ∈ body.dottedPaths ↔ ∃ field : Field, path = field.path ∧
        (field.lastArgument none (AnyDraft.accepted calls (.update {}))).isSome = true) ∧
      ∀ (field : Field) argument,
        field.lastArgument none (AnyDraft.accepted calls (.update {})) = some argument →
        body.at? field.segments = some (field.image argument) := by
  obtain ⟨draft, isFilled, holds⟩ := UpdateDraft.holds_fresh.afterCalls calls
  rw [isFilled] at isSent
  obtain ⟨plan, planned, _, ready⟩ := sent_perform_eq_some_iff.mp isSent
  obtain ⟨plain, target, body, _, _, placed, written, rfl⟩ := Request.prepare_eq_ok_iff.mp ready
  cases planned with
  | update formed unicode built =>
      obtain ⟨rfl, filled⟩ := UpdateDraft.eq_fields_of_build built
      obtain ⟨encodable, isQuery⟩ := Request.query_of_withParameters (by simp) placed
      obtain ⟨text, isText, printed⟩ := Request.print_of_bodyText written
      refine ⟨_, Text.join "," draft.fields.mask, text, draft.fields.toBody, isQuery, Form.decode_encode encodable, isText,
        holds.proper.plain_toBody.read_print printed, ?_, ?_, ?_, ?_⟩
      · rw [FieldMap.dottedPaths_toBody, holds.splitOn_join_mask filled]
      · rw [FieldMap.dottedPaths_toBody]
        exact holds.proper.nodup_mask
      · intro path
        rw [FieldMap.dottedPaths_toBody]
        exact holds.mem_mask_iff
      · intro field argument given
        exact holds.at?_toBody given

/-- Calls that clear the name, fail to set a flag, and set it twice. -/
def clearingCalls : List (Setter × Value) :=
  [(.field .displayName, .str []), (.field .enabled, .int 1), (.field .enabled, .bool false),
   (.field .enabled, .bool true)]

def clearedFields : FieldMap := .leaf "displayName" .cleared (.leaf "enabled" (.flag true) .empty)

/-- The mask of an update that clears the name and sets a flag has these two paths, and
the body holds a null and the flag that was set last. -/
theorem mask_agrees_with_body_of_clearing :
    ∃ request query mask text body,
      ((new (.str "my-project") Settings.defaultEndpoint Settings.defaultVersion
        (.ofLimits (.all .null))).perform (.update (.str "saml.okta")
          (some (AnyDraft.afterCalls clearingCalls (.update {})))) ⟨[]⟩).1.sent = some request ∧
      request.target.query = some query ∧ Form.decode query = [(("updateMask" : Text), mask)] ∧
      request.body = some text ∧ Json.read text = .ok body ∧
      Text.splitOn (.char ',') mask = body.dottedPaths ∧
      body.at? ["displayName"] = some .null ∧ body.at? ["enabled"] = some (.bool true) := by
  have named : IsProjectName ("my-project" : Text) := by decide
  have formed : ProviderId.WellFormed ("saml.okta" : Text) :=
    ProviderId.isValid_iff.mp (by decide)
  have filled : AnyDraft.afterCalls clearingCalls (.update {}) = .update ⟨clearedFields⟩ := rfl
  have built : UpdateDraft.build ⟨clearedFields⟩ = .ok clearedFields := rfl
  have planned := Operation.Planned.update formed (.ofString _) built
  obtain ⟨request, ready, _, _⟩ := (atAdmin_new "my-project" Settings.defaultVersion
    (.ofLimits (.all .null))).exists_sent named rfl planned (by decide) (by decide +kernel)
  have isSent : ((new (.str "my-project") Settings.defaultEndpoint Settings.defaultVersion
      (.ofLimits (.all .null))).perform (.update (.str "saml.okta")
        (some (.update ⟨clearedFields⟩))) ⟨[]⟩).1.sent = some request :=
    sent_perform_eq_some_iff.mpr ⟨_, planned, rfl, ready⟩
  rw [← filled] at isSent
  obtain ⟨query, mask, text, body, isQuery, decoded, isText, read, listed, _, _, values⟩ :=
    mask_agrees_with_body isSent
  have name : Field.displayName.segments = [("displayName" : Text)] := by decide
  have flag : Field.enabled.segments = [("enabled" : Text)] := by decide
  have cleared := values .displayName (.str []) rfl
  have set := values .enabled (.bool true) rfl
  rw [name] at cleared
  rw [flag] at set
  exact ⟨request, query, mask, text, body, isSent, isQuery, decoded, isText, read, listed, cleared,
    set⟩

end Client

end SamlAdmin
