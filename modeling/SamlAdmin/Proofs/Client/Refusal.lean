import SamlAdmin.Proofs.Client.Plan
import SamlAdmin.Proofs.Draft.Build

/-!
# Why an operation is refused

The arguments of an operation are checked before anything else.  `Operation.Accepted`
lists what passes these checks.  An operation that passes them is planned unless UTF-8
cannot write the ID in its path, and one that fails them is reported as invalid.
-/

namespace SamlAdmin

/-- Whether a fault says that an argument is invalid.  The others say that UTF-8 cannot
write an ID, or that a draft of the other kind was given. -/
def ArgumentFault.isInvalid : ArgumentFault → Bool
  | .unencodable _ => false
  | .createFromUpdate => false
  | .updateFromCreate => false
  | .providerId _ => true
  | .noDraft => true
  | .draft _ => true
  | .pageToken => true
  | .maxResults => true

namespace Operation

/-- The operations whose arguments pass every check. -/
inductive Accepted : Operation → Prop where
  | get {id : Text} (formed : ProviderId.WellFormed id) : Accepted (.get (.str id))
  | create {draft : CreateDraft} {fields : FieldMap} {id : Text}
      (built : draft.build = .ok (fields, id)) : Accepted (.create (some (.create draft)))
  | update {id : Text} {draft : UpdateDraft} {fields : FieldMap}
      (formed : ProviderId.WellFormed id) (built : draft.build = .ok fields) :
      Accepted (.update (.str id) (some (.update draft)))
  | delete {id : Text} (formed : ProviderId.WellFormed id) : Accepted (.delete (.str id))
  | list {token : Value} {size : Int} (isToken : isPageToken token = true)
      (range : 1 ≤ size ∧ size ≤ maxPageSize) : Accepted (.list token (.int size))

/-- Whether UTF-8 can write the ID in the path of an operation, if it has one. -/
def HasSpelling (operation : Operation) : Prop :=
  ∀ id, operation.about? = some (.str id) → id.IsUnicode

/-- Whether the draft of an operation, if it has one, is of the kind that it wants. -/
def HasOwnDraft : Operation → Prop
  | .create (some (.update _)) => False
  | .update _ (some (.create _)) => False
  | _ => True

/-- The ID of the configuration that an operation is for: the one in its path, or the
one in its draft. -/
def subject? : Operation → Option Value
  | .create (some (.create draft)) => some draft.providerId
  | operation => operation.about?

variable {operation : Operation} {plan : Plan} {fault : ArgumentFault}

theorem Accepted.subject (accepted : operation.Accepted) {given : Value}
    (isSubject : operation.subject? = some given) :
    ∃ id, given = .str id ∧ ProviderId.WellFormed id := by
  cases accepted with
  | get formed =>
      cases isSubject
      exact ⟨_, rfl, formed⟩
  | create built =>
      cases isSubject
      obtain ⟨_, isText, formed⟩ := CreateDraft.eq_fields_of_build built
      exact ⟨_, isText, formed⟩
  | update formed _ =>
      cases isSubject
      exact ⟨_, rfl, formed⟩
  | delete formed =>
      cases isSubject
      exact ⟨_, rfl, formed⟩
  | list _ _ => cases isSubject

theorem Planned.accepted (planned : operation.Planned plan) :
    operation.Accepted ∧ operation.HasSpelling := by
  constructor
  · cases planned with
    | get formed _ => exact .get formed
    | create built => exact .create built
    | update formed _ built => exact .update formed built
    | delete formed _ => exact .delete formed
    | firstPage range => exact .list rfl range
    | page nonempty range =>
        rename_i token size
        cases token with
        | nil => exact absurd rfl nonempty
        | cons first rest => exact .list rfl range
  · intro id about
    exact (planned.path_of_about about).2.2

theorem Accepted.planned (accepted : operation.Accepted) (spelled : operation.HasSpelling) :
    ∃ plan, operation.Planned plan := by
  cases accepted with
  | get formed => exact ⟨_, .get formed (spelled _ rfl)⟩
  | create built => exact ⟨_, .create built⟩
  | update formed built => exact ⟨_, .update formed (spelled _ rfl) built⟩
  | delete formed => exact ⟨_, .delete formed (spelled _ rfl)⟩
  | list isToken range =>
      rename_i token size
      cases token with
      | null => exact ⟨_, .firstPage range⟩
      | str text =>
          cases text with
          | nil => cases isToken
          | cons first rest => exact ⟨_, .page (by simp) range⟩
      | _ => cases isToken

/-! ## What a fault says -/

/-- What a fault may say of an operation: its arguments are invalid, or they are accepted
and only the path has no spelling. -/
def Explains (fault : ArgumentFault) (operation : Operation) : Prop :=
  (fault.isInvalid = true ∧ ¬operation.Accepted) ∨
    ((∃ refused, fault = .unencodable refused) ∧ operation.Accepted)

theorem unencodable_of_configPath {id : Text} (refused : configPath id = .error fault) :
    ∃ unencodable, fault = .unencodable unencodable := by
  rw [configPath] at refused
  cases written : Percent.component id with
  | error unencodable =>
      rw [written] at refused
      cases refused
      exact ⟨unencodable, rfl⟩
  | ok segment =>
      rw [written] at refused
      cases refused

theorem unencodable_of_planFor {method id : Text} {notice : Option Text}
    (refused : planFor method id notice = .error fault) :
    ∃ unencodable, fault = .unencodable unencodable := by
  rw [planFor] at refused
  cases written : configPath id with
  | error other =>
      rw [written] at refused
      cases refused
      exact unencodable_of_configPath written
  | ok path =>
      rw [written] at refused
      cases refused

/-- An operation that checks its ID first is refused for the ID, or after it. -/
theorem refused_of_checked {given : Value} {next : Text → Except ArgumentFault Plan}
    (refused : (match checkId given with
      | .error fault => .error fault
      | .ok id => next id) = Except.error fault) :
    (fault.isInvalid = true ∧ ∀ id, given = .str id → ¬ProviderId.WellFormed id) ∨
      ∃ id, given = .str id ∧ ProviderId.WellFormed id ∧ next id = .error fault := by
  cases checked : checkId given with
  | error other =>
      have failed : ∀ id, given = .str id → ¬ProviderId.WellFormed id := by
        intro id isText formed
        rw [checkId_eq_ok_iff.mpr ⟨isText, formed⟩] at checked
        cases checked
      rw [checked] at refused
      cases refused
      rw [checkId] at checked
      cases validated : ProviderId.validate given with
      | error invalid =>
          rw [validated] at checked
          cases checked
          exact Or.inl ⟨rfl, failed⟩
      | ok id =>
          rw [validated] at checked
          cases checked
  | ok id =>
      obtain ⟨isText, formed⟩ := checkId_eq_ok_iff.mp checked
      rw [checked] at refused
      exact Or.inr ⟨id, isText, formed, refused⟩

theorem explains_of_planCreate {draft : Option AnyDraft} (own : (Operation.create draft).HasOwnDraft)
    (refused : planCreate draft = .error fault) : Explains fault (.create draft) := by
  match draft with
  | none =>
      cases refused
      refine Or.inl ⟨rfl, fun accepted => ?_⟩
      cases accepted
  | some (.update draft) => cases own
  | some (.create draft) =>
      rw [planCreate] at refused
      cases built : draft.build with
      | error other =>
          rw [built] at refused
          cases refused
          refine Or.inl ⟨rfl, fun accepted => ?_⟩
          cases accepted with
          | create otherBuilt =>
              rw [built] at otherBuilt
              cases otherBuilt
      | ok both =>
          rw [built] at refused
          cases refused

theorem explains_of_planUpdate {id : Text} (formed : ProviderId.WellFormed id)
    {draft : Option AnyDraft} (own : (Operation.update (.str id) draft).HasOwnDraft)
    (refused : planUpdate id draft = .error fault) : Explains fault (.update (.str id) draft) := by
  match draft with
  | none =>
      cases refused
      refine Or.inl ⟨rfl, fun accepted => ?_⟩
      cases accepted
  | some (.create draft) => cases own
  | some (.update draft) =>
      rw [planUpdate] at refused
      cases built : draft.build with
      | error other =>
          rw [built] at refused
          cases refused
          refine Or.inl ⟨rfl, fun accepted => ?_⟩
          cases accepted with
          | update _ otherBuilt =>
              rw [built] at otherBuilt
              cases otherBuilt
      | ok fields =>
          rw [built] at refused
          cases written : configPath id with
          | error other =>
              simp only [written] at refused
              cases refused
              exact Or.inr ⟨unencodable_of_configPath written, .update formed built⟩
          | ok path =>
              simp only [written] at refused
              cases refused

theorem explains_of_planList {token size : Value} (refused : planList token size = .error fault) :
    Explains fault (.list token size) := by
  unfold planList at refused
  by_cases tokenOk : isPageToken token = true
  · by_cases sizeOk : isPageSize size = true
    · rw [tokenOk, sizeOk] at refused
      cases refused
    · rw [tokenOk, Bool.eq_false_iff.mpr sizeOk] at refused
      cases refused
      refine Or.inl ⟨rfl, fun accepted => ?_⟩
      cases accepted with
      | list _ range => exact sizeOk (isPageSize_iff.mpr ⟨_, rfl, range⟩)
  · rw [Bool.eq_false_iff.mpr tokenOk] at refused
    cases refused
    refine Or.inl ⟨rfl, fun accepted => ?_⟩
    cases accepted with
    | list isToken _ => exact tokenOk isToken

theorem explains_of_plan (own : operation.HasOwnDraft) (refused : operation.plan = .error fault) :
    Explains fault operation := by
  cases operation with
  | get given =>
      rcases refused_of_checked refused with ⟨invalid, failed⟩ | ⟨id, isText, formed, after⟩
      · refine Or.inl ⟨invalid, fun accepted => ?_⟩
        cases accepted with
        | get formed => exact failed _ rfl formed
      · subst isText
        exact Or.inr ⟨unencodable_of_planFor after, .get formed⟩
  | create draft => exact explains_of_planCreate own refused
  | update given draft =>
      rcases refused_of_checked refused with ⟨invalid, failed⟩ | ⟨id, isText, formed, after⟩
      · refine Or.inl ⟨invalid, fun accepted => ?_⟩
        cases accepted with
        | update formed _ => exact failed _ rfl formed
      · subst isText
        exact explains_of_planUpdate formed own after
  | delete given =>
      rcases refused_of_checked refused with ⟨invalid, failed⟩ | ⟨id, isText, formed, after⟩
      · refine Or.inl ⟨invalid, fun accepted => ?_⟩
        cases accepted with
        | delete formed => exact failed _ rfl formed
      · subst isText
        exact Or.inr ⟨unencodable_of_planFor after, .delete formed⟩
  | list token size => exact explains_of_planList refused

/-- An operation is reported as invalid exactly if its arguments are not accepted. -/
theorem invalid_iff (own : operation.HasOwnDraft) :
    (∃ fault, operation.plan = .error fault ∧ fault.isInvalid = true) ↔ ¬operation.Accepted := by
  constructor
  · rintro ⟨fault, refused, invalid⟩
    rcases explains_of_plan own refused with ⟨_, failed⟩ | ⟨⟨unencodable, rfl⟩, _⟩
    · exact failed
    · cases invalid
  · intro failed
    cases refused : operation.plan with
    | error fault =>
        rcases explains_of_plan own refused with ⟨invalid, _⟩ | ⟨_, accepted⟩
        · exact ⟨fault, rfl, invalid⟩
        · exact absurd accepted failed
    | ok plan => exact absurd (plan_eq_ok_iff.mp refused).accepted.1 failed

/-- UTF-8 is what refuses an operation exactly if its arguments are accepted and its path
has no spelling. -/
theorem unencodable_iff (own : operation.HasOwnDraft) :
    (∃ fault, operation.plan = .error (.unencodable fault)) ↔
      operation.Accepted ∧ ¬operation.HasSpelling := by
  constructor
  · rintro ⟨fault, refused⟩
    rcases explains_of_plan own refused with ⟨invalid, _⟩ | ⟨_, accepted⟩
    · cases invalid
    · refine ⟨accepted, fun spelled => ?_⟩
      obtain ⟨plan, planned⟩ := accepted.planned spelled
      rw [plan_eq_ok_iff.mpr planned] at refused
      cases refused
  · rintro ⟨accepted, noSpelling⟩
    cases refused : operation.plan with
    | error fault =>
        rcases explains_of_plan own refused with ⟨_, failed⟩ | ⟨⟨unencodable, rfl⟩, _⟩
        · exact absurd accepted failed
        · exact ⟨unencodable, rfl⟩
    | ok plan => exact absurd (plan_eq_ok_iff.mp refused).accepted.2 noSpelling

end Operation

end SamlAdmin
