import SamlAdmin.Proofs.Except
import SamlAdmin.Proofs.FieldMap.Insert
import SamlAdmin.Proofs.Text.Unicode
import SamlAdmin.Session

/-!
# What one setter call writes

A setter call that succeeds writes one leaf, at the path of its field.  So whatever a
draft is given, all keys in it are Unicode text, and what UTF-8 cannot write in a draft is
a text that some setter was given.
-/

namespace SamlAdmin

theorem Field.isUnicode_of_mem_segments (field : Field) :
    ∀ part ∈ FieldMap.segments field.path, part.IsUnicode := by
  cases field <;> decide

theorem Draft.setField_eq_ok {field : Field} {argument : Value} {fields changed : FieldMap}
    (accepted : Draft.setField field argument fields = .ok changed) :
    ∃ value leaf key more, Draft.stored field argument = .ok value ∧
      Leaf.ofValue? value = some leaf ∧ FieldMap.segments field.path = key :: more ∧
      FieldMap.insert leaf key more fields = .ok changed := by
  rw [Draft.setField] at accepted
  cases stored : Draft.stored field argument with
  | error refusal =>
      rw [stored] at accepted
      cases accepted
  | ok value =>
      simp only [stored, mapError_eq_ok_iff] at accepted
      obtain ⟨leaf, key, more, kind, cut, _, inserted⟩ := FieldMap.set_eq_ok accepted
      exact ⟨value, leaf, key, more, rfl, kind, cut, inserted⟩

/-- What a setter of a draft of a kind takes its argument for. -/
def DraftKind.argumentFor : DraftKind → Field → Value → Value
  | .create, _, argument => argument
  | .update, field, argument => UpdateDraft.argumentFor field argument

namespace AnyDraft

def kind : AnyDraft → DraftKind
  | .create _ => .create
  | .update _ => .update

def fields : AnyDraft → FieldMap
  | .create draft => draft.fields
  | .update draft => draft.fields

def withFields (fields : FieldMap) : AnyDraft → AnyDraft
  | .create draft => .create { draft with fields }
  | .update draft => .update { draft with fields }

@[simp] theorem kind_withFields (fields : FieldMap) (draft : AnyDraft) :
    (draft.withFields fields).kind = draft.kind := by
  cases draft <;> rfl

@[simp] theorem fields_withFields (fields : FieldMap) (draft : AnyDraft) :
    (draft.withFields fields).fields = fields := by
  cases draft <;> rfl

variable {draft changed : AnyDraft} {setter : Setter} {field : Field} {argument : Value}

/-- A setter of a field sets the field in the fields of a draft, and leaves all else in it. -/
theorem apply_field (field : Field) (argument : Value) (draft : AnyDraft) :
    draft.apply (.field field) argument =
      ((Draft.setField field (draft.kind.argumentFor field argument) draft.fields).map
        fun fields => draft.withFields fields).mapError .refused := by
  cases draft with
  | create draft =>
      simp only [apply, CreateDraft.set, kind, fields, DraftKind.argumentFor]
      cases Draft.setField field argument draft.fields <;> rfl
  | update draft =>
      simp only [apply, UpdateDraft.set, kind, fields, DraftKind.argumentFor]
      cases Draft.setField field (UpdateDraft.argumentFor field argument) draft.fields <;> rfl

theorem setField_of_apply (accepted : draft.apply (.field field) argument = .ok changed) :
    ∃ fields, Draft.setField field (draft.kind.argumentFor field argument) draft.fields =
      .ok fields ∧ changed = draft.withFields fields := by
  rw [apply_field, mapError_eq_ok_iff, map_eq_ok_iff] at accepted
  obtain ⟨fields, written, rfl⟩ := accepted
  exact ⟨fields, written, rfl⟩

theorem of_apply_providerId (accepted : draft.apply .providerId argument = .ok changed) :
    changed.kind = draft.kind ∧ changed.fields = draft.fields := by
  cases draft with
  | create draft =>
      cases accepted
      exact ⟨rfl, rfl⟩
  | update draft => cases accepted

theorem fields_of_apply (accepted : draft.apply setter argument = .ok changed) :
    changed.fields = draft.fields ∨
      ∃ field value, Draft.setField field value draft.fields = .ok changed.fields := by
  cases setter with
  | providerId => exact Or.inl (of_apply_providerId accepted).2
  | field field =>
      obtain ⟨fields, written, rfl⟩ := setField_of_apply accepted
      rw [fields_withFields]
      exact Or.inr ⟨field, _, written⟩

/-- Whether all keys in a draft are Unicode text. -/
def HasUnicodeKeys (draft : AnyDraft) : Prop := draft.fields.AllKeys Text.IsUnicode

theorem HasUnicodeKeys.apply (keys : draft.HasUnicodeKeys)
    (accepted : draft.apply setter argument = .ok changed) : changed.HasUnicodeKeys := by
  rcases fields_of_apply accepted with same | ⟨field, value, set⟩
  · rw [HasUnicodeKeys, same]
    exact keys
  · obtain ⟨_, leaf, key, more, _, _, cut, inserted⟩ := Draft.setField_eq_ok set
    refine FieldMap.AllKeys.insert keys ?_ inserted
    rw [← cut]
    exact field.isUnicode_of_mem_segments

theorem HasUnicodeKeys.applyAll {setters : List (Setter × Value)} (keys : draft.HasUnicodeKeys)
    (accepted : AnyDraft.applyAll setters draft = .ok changed) : changed.HasUnicodeKeys := by
  induction setters generalizing draft with
  | nil =>
      cases accepted
      exact keys
  | cons first rest ih =>
      obtain ⟨setter, argument⟩ := first
      rw [AnyDraft.applyAll] at accepted
      cases made : draft.apply setter argument with
      | error fault =>
          rw [made] at accepted
          cases accepted
      | ok next =>
          rw [made] at accepted
          exact ih (keys.apply made) accepted

end AnyDraft

end SamlAdmin
