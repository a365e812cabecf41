import SamlAdmin.Client
import SamlAdmin.Proofs.Except
import SamlAdmin.Proofs.ProviderId
import SamlAdmin.Proofs.Text.Unicode

/-!
# What an operation plans

`Operation.Planned` lists, for each operation, the request that it plans and what its
arguments have to satisfy for it.  It is the graph of `Operation.plan`, so a fact about
planned requests is proved by cases on the operation, with the conditions at hand.
-/

namespace SamlAdmin

/-- The path of a configuration within its project. -/
def configSuffix (id : Text) : Text := collectionPath ++ ("/" : Text) ++ Percent.encodeComponent id

theorem configPath_eq_ok_iff {id path : Text} :
    configPath id = .ok path ↔ id.IsUnicode ∧ path = configSuffix id := by
  rw [configPath]
  cases written : Percent.component id with
  | error fault =>
      constructor
      · intro planned
        cases planned
      · rintro ⟨scalars, _⟩
        rw [Percent.component_eq_ok_iff.mpr ⟨scalars, rfl⟩] at written
        cases written
  | ok segment =>
      obtain ⟨scalars, rfl⟩ := Percent.component_eq_ok_iff.mp written
      constructor
      · intro planned
        cases planned
        exact ⟨scalars, rfl⟩
      · rintro ⟨_, rfl⟩
        rfl

namespace Operation

def method : Operation → Text
  | .get _ => "GET"
  | .create _ => "POST"
  | .update _ _ => "PATCH"
  | .delete _ => "DELETE"
  | .list _ _ => "GET"

/-- The ID of the configuration that an operation is about, where its path names one. -/
def about? : Operation → Option Value
  | .get id => some id
  | .update id _ => some id
  | .delete id => some id
  | .create _ => none
  | .list _ _ => none

/-- The request that an operation plans. -/
inductive Planned : Operation → Plan → Prop where
  | get {id : Text} (formed : ProviderId.WellFormed id) (unicode : id.IsUnicode) :
      Planned (.get (.str id)) { method := "GET", path := configSuffix id }
  | create {draft : CreateDraft} {fields : FieldMap} {id : Text}
      (built : draft.build = .ok (fields, id)) :
      Planned (.create (some (.create draft))) {
        method := "POST"
        path := collectionPath
        parameters := some [("inboundSamlConfigId", .str id)]
        body := fields.toBody
        notice := some (("Created SAML provider config " : Text) ++ id) }
  | update {id : Text} {draft : UpdateDraft} {fields : FieldMap}
      (formed : ProviderId.WellFormed id) (unicode : id.IsUnicode)
      (built : draft.build = .ok fields) :
      Planned (.update (.str id) (some (.update draft))) {
        method := "PATCH"
        path := configSuffix id
        parameters := some [("updateMask", .str (Text.join "," fields.mask))]
        body := fields.toBody
        notice := some (("Updated SAML provider config " : Text) ++ id ++ (": " : Text)
          ++ (Value.list (fields.mask.map .str)).literal) }
  | delete {id : Text} (formed : ProviderId.WellFormed id) (unicode : id.IsUnicode) :
      Planned (.delete (.str id)) {
        method := "DELETE"
        path := configSuffix id
        notice := some (("Deleted SAML provider config " : Text) ++ id) }
  | firstPage {size : Int} (range : 1 ≤ size ∧ size ≤ maxPageSize) :
      Planned (.list .null (.int size)) {
        method := "GET"
        path := collectionPath
        parameters := some [("pageSize", .int size)] }
  | page {token : Text} {size : Int} (nonempty : token ≠ [])
      (range : 1 ≤ size ∧ size ≤ maxPageSize) :
      Planned (.list (.str token) (.int size)) {
        method := "GET"
        path := collectionPath
        parameters := some [("pageSize", .int size), ("pageToken", .str token)] }

theorem checkId_eq_ok_iff {given : Value} {id : Text} :
    checkId given = .ok id ↔ given = .str id ∧ ProviderId.WellFormed id := by
  rw [← ProviderId.validate_eq_ok_iff_wellFormed, checkId, mapError_eq_ok_iff]

theorem isPageSize_iff {given : Value} :
    isPageSize given = true ↔ ∃ size : Int, given = .int size ∧ 1 ≤ size ∧ size ≤ maxPageSize := by
  cases given <;> simp [isPageSize]

theorem planFor_eq_ok_iff {method id : Text} {notice : Option Text} {plan : Plan} :
    planFor method id notice = .ok plan ↔
      id.IsUnicode ∧ plan = { method, path := configSuffix id, notice } := by
  rw [planFor]
  cases written : configPath id with
  | error fault =>
      constructor
      · intro planned
        cases planned
      · rintro ⟨unicode, _⟩
        rw [configPath_eq_ok_iff.mpr ⟨unicode, rfl⟩] at written
        cases written
  | ok path =>
      obtain ⟨unicode, rfl⟩ := configPath_eq_ok_iff.mp written
      constructor
      · intro planned
        cases planned
        exact ⟨unicode, rfl⟩
      · rintro ⟨_, rfl⟩
        rfl

section Graph

variable {plan : Plan}

theorem planned_of_planCreate {draft : Option AnyDraft} (planned : planCreate draft = .ok plan) :
    Planned (.create draft) plan := by
  match draft with
  | none => cases planned
  | some (.update draft) =>
      rw [planCreate] at planned
      cases built : draft.build with
      | error fault =>
          rw [built] at planned
          cases planned
      | ok fields =>
          rw [built] at planned
          cases planned
  | some (.create draft) =>
      rw [planCreate] at planned
      cases built : draft.build with
      | error fault =>
          rw [built] at planned
          cases planned
      | ok both =>
          rw [built] at planned
          cases planned
          exact .create built

theorem planned_of_planUpdate {id : Text} (formed : ProviderId.WellFormed id)
    {draft : Option AnyDraft} (planned : planUpdate id draft = .ok plan) :
    Planned (.update (.str id) draft) plan := by
  match draft with
  | none => cases planned
  | some (.create draft) =>
      rw [planUpdate] at planned
      cases built : draft.build with
      | error fault =>
          rw [built] at planned
          cases planned
      | ok both =>
          rw [built] at planned
          cases planned
  | some (.update draft) =>
      rw [planUpdate] at planned
      cases built : draft.build with
      | error fault =>
          rw [built] at planned
          cases planned
      | ok fields =>
          cases written : configPath id with
          | error fault =>
              simp only [built, written] at planned
              cases planned
          | ok path =>
              obtain ⟨unicode, rfl⟩ := configPath_eq_ok_iff.mp written
              simp only [built, written] at planned
              cases planned
              exact .update formed unicode built

theorem planned_of_planList {token size : Value} (planned : planList token size = .ok plan) :
    Planned (.list token size) plan := by
  unfold planList at planned
  by_cases tokenOk : isPageToken token = true
  · by_cases sizeOk : isPageSize size = true
    · obtain ⟨number, rfl, range⟩ := isPageSize_iff.mp sizeOk
      rw [tokenOk, sizeOk] at planned
      cases token with
      | null =>
          cases planned
          exact .firstPage range
      | str text =>
          cases text with
          | nil => cases tokenOk
          | cons first rest =>
              cases planned
              exact .page (by simp) range
      | _ => cases tokenOk
    · rw [tokenOk, Bool.eq_false_iff.mpr sizeOk] at planned
      cases planned
  · rw [Bool.eq_false_iff.mpr tokenOk] at planned
    cases planned

theorem planned_of_checked {operation : Operation} {given : Value}
    {next : Text → Except ArgumentFault Plan}
    (planned : (match checkId given with
      | .error fault => .error fault
      | .ok id => next id) = Except.ok plan)
    (goOn : ∀ id, ProviderId.WellFormed id → given = .str id → next id = .ok plan →
      Planned operation plan) : Planned operation plan := by
  cases checked : checkId given with
  | error fault =>
      rw [checked] at planned
      cases planned
  | ok id =>
      obtain ⟨isText, formed⟩ := checkId_eq_ok_iff.mp checked
      rw [checked] at planned
      exact goOn id formed isText planned

theorem planned_of_plan {operation : Operation} (planned : operation.plan = .ok plan) :
    Planned operation plan := by
  cases operation with
  | get given =>
      refine planned_of_checked planned fun id formed isText next => ?_
      obtain ⟨unicode, rfl⟩ := planFor_eq_ok_iff.mp next
      subst isText
      exact .get formed unicode
  | create draft => exact planned_of_planCreate planned
  | update given draft =>
      refine planned_of_checked planned fun id formed isText next => ?_
      subst isText
      exact planned_of_planUpdate formed next
  | delete given =>
      refine planned_of_checked planned fun id formed isText next => ?_
      obtain ⟨unicode, rfl⟩ := planFor_eq_ok_iff.mp next
      subst isText
      exact .delete formed unicode
  | list token size => exact planned_of_planList planned

theorem Planned.plan_eq_ok {operation : Operation} (planned : Planned operation plan) :
    operation.plan = .ok plan := by
  cases planned with
  | get formed unicode =>
      rw [Operation.plan, checkId_eq_ok_iff.mpr ⟨rfl, formed⟩]
      exact planFor_eq_ok_iff.mpr ⟨unicode, rfl⟩
  | create built =>
      rw [Operation.plan, planCreate, built]
  | update formed unicode built =>
      simp only [Operation.plan, checkId_eq_ok_iff.mpr ⟨rfl, formed⟩, planUpdate, built,
        configPath_eq_ok_iff.mpr ⟨unicode, rfl⟩]
  | delete formed unicode =>
      rw [Operation.plan, checkId_eq_ok_iff.mpr ⟨rfl, formed⟩]
      exact planFor_eq_ok_iff.mpr ⟨unicode, rfl⟩
  | firstPage range =>
      have sizeOk := isPageSize_iff.mpr ⟨_, rfl, range⟩
      rw [Operation.plan]
      unfold planList
      rw [sizeOk]
      rfl
  | page nonempty range =>
      have sizeOk := isPageSize_iff.mpr ⟨_, rfl, range⟩
      rename_i token size
      cases token with
      | nil => exact absurd rfl nonempty
      | cons first rest =>
          rw [Operation.plan]
          unfold planList
          rw [sizeOk]
          rfl

/-- An operation plans the request that `Planned` names for it, and no other. -/
theorem plan_eq_ok_iff {operation : Operation} :
    operation.plan = .ok plan ↔ Planned operation plan := by
  constructor
  · exact planned_of_plan
  · exact Planned.plan_eq_ok

end Graph

theorem Planned.path_of_about {operation : Operation} {plan : Plan} {id : Text}
    (planned : operation.Planned plan) (about : operation.about? = some (.str id)) :
    plan.path = configSuffix id ∧ ProviderId.WellFormed id ∧ id.IsUnicode := by
  cases planned with
  | get formed unicode =>
      cases about
      exact ⟨rfl, formed, unicode⟩
  | create _ => cases about
  | update formed unicode _ =>
      cases about
      exact ⟨rfl, formed, unicode⟩
  | delete formed unicode =>
      cases about
      exact ⟨rfl, formed, unicode⟩
  | firstPage _ => cases about
  | page _ _ => cases about

end Operation

end SamlAdmin
