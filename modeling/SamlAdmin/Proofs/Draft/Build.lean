import SamlAdmin.Proofs.Draft.Checks
import SamlAdmin.Proofs.Draft.Setting
import SamlAdmin.Proofs.FieldMap.Body

/-!
# What a draft is turned into

Turning a draft into a request checks its fields and changes nothing: a draft that
passes hands over its fields as they are, and a new configuration the ID it was given.
-/

namespace SamlAdmin

theorem UpdateDraft.eq_fields_of_build {draft : UpdateDraft} {fields : FieldMap}
    (built : draft.build = .ok fields) : fields = draft.fields ∧ fields.isEmpty = false := by
  obtain ⟨rfl, filled, _⟩ := build_eq_ok_iff.mp built
  exact ⟨rfl, filled⟩

theorem CreateDraft.eq_fields_of_build {draft : CreateDraft} {fields : FieldMap} {id : Text}
    (built : draft.build = .ok (fields, id)) :
    fields = draft.fields ∧ draft.providerId = .str id ∧ ProviderId.WellFormed id := by
  obtain ⟨rfl, given, formed, _⟩ := build_eq_ok_iff.mp built
  exact ⟨rfl, given, formed⟩

/-! ## The texts of a draft -/

def Value.ownText : Value → List Text
  | .str text => [text]
  | _ => []

/-- The ID that a draft was given, if it has a place for one. -/
def AnyDraft.ownId : AnyDraft → List Text
  | .create draft => draft.providerId.ownText
  | .update _ => []

def AnyDraft.texts (draft : AnyDraft) : List Text := draft.ownId ++ draft.fields.texts

/-- The paths of a map of Unicode text are Unicode text. -/
theorem FieldMap.IsUnicode.mask {fields : FieldMap} (unicode : fields.IsUnicode) :
    ∀ path ∈ fields.mask, path.IsUnicode := by
  induction fields with
  | empty => exact List.forall_mem_nil _
  | leaf key value rest ih =>
      obtain ⟨keyUnicode, _, restUnicode⟩ := isUnicode_leaf_iff.mp unicode
      rw [FieldMap.mask, List.forall_mem_cons]
      exact ⟨keyUnicode, ih restUnicode⟩
  | group key children rest childrenIh restIh =>
      obtain ⟨keyUnicode, childrenUnicode, restUnicode⟩ := isUnicode_group_iff.mp unicode
      rw [FieldMap.mask, List.forall_mem_append, List.forall_mem_map]
      refine ⟨fun path member => ?_, restIh restUnicode⟩
      have pathUnicode := childrenIh childrenUnicode path member
      exact Text.isUnicode_append_iff.mpr
        ⟨keyUnicode, (Text.isUnicode_cons_iff '.').mpr pathUnicode⟩

end SamlAdmin
