import SamlAdmin.Proofs.Draft.Record
import SamlAdmin.Proofs.FieldMap.Store
import SamlAdmin.Proofs.Resource.OfFields

/-!
# Setters in place

A setter writes in the fields of its draft as they stand, so a call that fails could leave
something behind, and it could fail for what was set before.  Neither happens.  The paths of
the fields are not above each other, and a draft holds nothing but fields, so no write of a
setter meets a conflict: a setter fails for its argument alone.  `Field.Takes` says which
arguments the setter of a field takes.
-/

namespace SamlAdmin

/-! ## Arguments of setters -/

/-- Whether the setter of a field takes an argument: a list or tuple of texts as certificates,
and any leaf for every other field. -/
def Field.Takes (argument : Value) : Field → Prop
  | .certificates =>
    ∃ pems : List Text, argument = .list (pems.map .str) ∨ argument = .tuple (pems.map .str)
  | .idpEntityId | .ssoUrl | .rpEntityId | .callbackUrl | .enabled | .requestSigning
  | .displayName => argument.IsLeaf

/-- The refusal of an argument that the setter of a field does not take. -/
def Field.refusal (argument : Value) : Field → Draft.Refusal
  | .certificates => .certificateKind
  | field => .field (.unsupported field.path argument.kind)

/-- Whether a fault of a setter is that of an invalid argument.  Neither a path that is not
well formed or leads to a conflict is one, nor a setter that the draft does not have. -/
def Setter.Fault.IsOfArgument : Setter.Fault → Prop
  | .refused .certificateKind | .refused (.field (.unsupported _ _)) => True
  | .refused (.field _) | .missing _ => False

namespace Field

variable {field : Field} {argument : Value}

theorem takes_iff_of_ne_certificates (other : field ≠ .certificates) :
    field.Takes argument ↔ argument.IsLeaf := by
  cases field with
  | certificates => exact absurd rfl other
  | _ => exact Iff.rfl

theorem refusal_of_ne_certificates (other : field ≠ .certificates) (argument : Value) :
    field.refusal argument = .field (.unsupported field.path argument.kind) := by
  cases field with
  | certificates => exact absurd rfl other
  | _ => rfl

theorem isOfArgument_refusal (field : Field) (argument : Value) :
    (Setter.Fault.refused (field.refusal argument)).IsOfArgument := by
  cases field <;> exact trivial

theorem isPath_path (field : Field) : FieldMap.IsPath (.str field.path) :=
  FieldMap.isPath_str_iff.mpr fun part member =>
    (field.isSegment_of_mem_segments part member).nonempty

/-- The path of no field is above that of a field. -/
theorem not_isAbove_path (field other : Field) : ¬ FieldMap.IsAbove field.path other.path := by
  intro isAbove
  obtain ⟨next, rest, longer⟩ := FieldMap.isAbove_iff.mp isAbove
  have begins : field.segments <+: other.segments := ⟨next :: rest, longer.symm⟩
  obtain rfl := eq_of_segments_prefix begins
  exact absurd (List.self_eq_append_right.mp longer) (List.cons_ne_nil next rest)

end Field

namespace Draft

variable {argument : Value} {fields : FieldMap}

theorem certificatesOf_map_str (pems : List Text) :
    certificatesOf (pems.map .str) = some (pems.map Certificate.mk) := by
  induction pems with
  | nil => rfl
  | cons pem pems ih => rw [List.map_cons, certificatesOf, ih, Option.map_some, List.map_cons]

theorem takes_certificates_iff :
    Field.certificates.Takes argument ↔ ∃ value, stored .certificates argument = .ok value := by
  constructor
  · intro takes
    obtain ⟨pems, rfl | rfl⟩ := takes
    · simp only [stored, certificatesOf_map_str]
      exact ⟨_, rfl⟩
    · simp only [stored, certificatesOf_map_str]
      exact ⟨_, rfl⟩
  · intro isStored
    obtain ⟨value, accepted⟩ := isStored
    obtain ⟨items, certificates, given, read, _⟩ := stored_certificates_eq_ok accepted
    rw [eq_map_of_certificatesOf read] at given
    refine ⟨certificates.map Certificate.pem, ?_⟩
    rw [List.map_map]
    exact given

theorem stored_certificates_eq_error {refusal : Refusal}
    (refused : stored .certificates argument = .error refusal) : refusal = .certificateKind := by
  unfold stored at refused
  split at refused
  · split at refused
    · cases refused
    · cases refused
      rfl
  · split at refused
    · cases refused
    · cases refused
      rfl
  · cases refused
    rfl
  · cases refused

end Draft

namespace DraftKind

variable {kind : DraftKind} {field : Field} {argument : Value}

theorem argumentFor_of_not_isLeaf (unsupported : ¬ argument.IsLeaf) :
    kind.argumentFor field argument = argument := by
  cases kind with
  | create => rfl
  | update =>
      apply UpdateDraft.argumentFor_of_kept
      intro empty
      rw [empty] at unsupported
      exact absurd (.text []) unsupported

theorem isLeaf_argumentFor (isLeaf : argument.IsLeaf) :
    (kind.argumentFor field argument).IsLeaf := by
  cases kind with
  | create => exact isLeaf
  | update =>
      rw [argumentFor, UpdateDraft.argumentFor.eq_def]
      split
      · exact .cleared
      · exact isLeaf

end DraftKind

/-! ## Setting a field in a draft -/

namespace AnyDraft

variable {draft : AnyDraft} {kind : DraftKind} {last : Field → Option Value}

theorem Records.eq_path_of_contains (records : Records kind last draft) {path : Text}
    (held : draft.fields.contains (.str path) = true) : ∃ field : Field, path = field.path := by
  obtain ⟨leaf, found⟩ := Option.isSome_iff_exists.mp held
  obtain ⟨field, isPath⟩ := records.onlyFields _ leaf found
  exact ⟨field, FieldMap.segments_injective isPath⟩

theorem Records.exists_set (records : Records kind last draft) (field : Field) {value : Value}
    (isLeaf : value.IsLeaf) :
    ∃ after, draft.fields.set (.str field.path) value = .ok after := by
  rw [records.proper.exists_set_iff field.isPath_path isLeaf]
  constructor
  · intro above
    obtain ⟨path, isAbove, held⟩ := above
    obtain ⟨other, rfl⟩ := records.eq_path_of_contains held
    exact other.not_isAbove_path field isAbove
  · intro below
    obtain ⟨path, isBelow, held⟩ := below
    obtain ⟨other, rfl⟩ := records.eq_path_of_contains held
    exact field.not_isAbove_path other isBelow

theorem Records.exists_setField (records : Records kind last draft) {field : Field}
    {argument : Value} (takes : field.Takes argument) :
    ∃ after, Draft.setField field (draft.kind.argumentFor field argument) draft.fields =
      .ok after := by
  by_cases isCertificates : field = .certificates
  · subst isCertificates
    obtain ⟨value, isStored⟩ := Draft.takes_certificates_iff.mp takes
    obtain ⟨_, certificates, _, _, rfl⟩ := Draft.stored_certificates_eq_ok isStored
    obtain ⟨after, written⟩ := records.exists_set .certificates (.certificates certificates)
    rw [DraftKind.argumentFor_of_ne_displayName Field.noConfusion, Draft.setField, isStored]
    exact ⟨after, mapError_eq_ok_iff.mpr written⟩
  · rw [Field.takes_iff_of_ne_certificates isCertificates] at takes
    obtain ⟨after, written⟩ := records.exists_set field (DraftKind.isLeaf_argumentFor takes)
    rw [Draft.setField, Draft.stored_of_ne_certificates isCertificates]
    exact ⟨after, mapError_eq_ok_iff.mpr written⟩

end AnyDraft

theorem DraftKind.setField_of_not_takes {kind : DraftKind} {field : Field} {argument : Value}
    (refused : ¬ field.Takes argument) (fields : FieldMap) :
    Draft.setField field (kind.argumentFor field argument) fields =
      .error (field.refusal argument) := by
  by_cases isCertificates : field = .certificates
  · subst isCertificates
    rw [argumentFor_of_ne_displayName Field.noConfusion, Draft.setField]
    cases isStored : Draft.stored .certificates argument with
    | ok value => exact absurd (Draft.takes_certificates_iff.mpr ⟨value, isStored⟩) refused
    | error refusal =>
        rw [Draft.stored_certificates_eq_error isStored]
        rfl
  · rw [Field.takes_iff_of_ne_certificates isCertificates] at refused
    rw [argumentFor_of_not_isLeaf refused, Draft.setField,
      Draft.stored_of_ne_certificates isCertificates, field.refusal_of_ne_certificates isCertificates]
    simp only [FieldMap.set_of_not_isLeaf field.isPath_path refused]
    rfl

/-! ## Calls in place -/

/-- Set a field in place.  The answer is the refusal, if there is one, with the fields as they
are left behind. -/
def Draft.storeField (field : Field) (argument : Value) (fields : FieldMap) :
    Option Refusal × FieldMap :=
  match stored field argument with
  | .error refusal => (some refusal, fields)
  | .ok value =>
    let (fault, left) := fields.store (.str field.path) value
    (fault.map .field, left)

theorem Draft.storeField_eq (field : Field) (argument : Value) (fields : FieldMap) :
    storeField field argument fields = fields.leftBy (setField field argument fields) := by
  rw [storeField, setField]
  cases stored field argument with
  | error refusal => rfl
  | ok value =>
      simp only [FieldMap.store_eq]
      cases fields.set (.str field.path) value <;> rfl

namespace AnyDraft

/-- Run a setter in place.  The answer is the fault, if there is one, with the draft as it is
left behind. -/
def store (setter : Setter) (argument : Value) (draft : AnyDraft) :
    Option Setter.Fault × AnyDraft :=
  match setter, draft with
  | .providerId, .create draft => (none, .create { draft with providerId := argument })
  | .providerId, .update draft => (some (.missing .providerId), .update draft)
  | .field field, draft =>
    let (refusal, left) :=
      Draft.storeField field (draft.kind.argumentFor field argument) draft.fields
    (refusal.map .refused, draft.withFields left)

/-- A draft after calls of setters, the ones that met a fault among them. -/
def storeAll (draft : AnyDraft) (calls : List (Setter × Value)) : AnyDraft :=
  calls.foldl (fun left call => (left.store call.1 call.2).2) draft

variable {draft : AnyDraft}

@[simp] theorem withFields_fields (draft : AnyDraft) : draft.withFields draft.fields = draft := by
  cases draft <;> rfl

/-- Nothing is left of a call that meets a fault. -/
theorem store_eq (setter : Setter) (argument : Value) (draft : AnyDraft) :
    draft.store setter argument =
      match draft.apply setter argument with
      | .ok changed => (none, changed)
      | .error fault => (some fault, draft) := by
  cases setter with
  | providerId => cases draft <;> rfl
  | field field =>
      rw [store, Draft.storeField_eq, apply_field]
      cases Draft.setField field (draft.kind.argumentFor field argument) draft.fields with
      | ok after => rfl
      | error refusal =>
          simp only [FieldMap.leftBy, withFields_fields]
          rfl

theorem storeAll_eq_afterCalls (calls : List (Setter × Value)) (draft : AnyDraft) :
    draft.storeAll calls = draft.afterCalls calls := by
  have sameStep : (fun (left : AnyDraft) (call : Setter × Value) => (left.store call.1 call.2).2) =
      afterCall := by
    funext left call
    rw [store_eq, afterCall]
    cases left.apply call.1 call.2 <;> rfl
  rw [storeAll, sameStep, afterCalls]

/-- The setter of a field succeeds for an argument that it takes, whatever was set before. -/
theorem Records.store_of_takes {kind : DraftKind} {last : Field → Option Value}
    (records : Records kind last draft) {field : Field} {argument : Value}
    (takes : field.Takes argument) : (draft.store (.field field) argument).1 = none := by
  obtain ⟨after, written⟩ := records.exists_setField takes
  rw [store_eq, apply_field, written]
  rfl

/-- The setter of a field refuses any other argument, and leaves the draft as it was. -/
theorem store_of_not_takes {field : Field} {argument : Value} (refused : ¬ field.Takes argument)
    (draft : AnyDraft) :
    draft.store (.field field) argument = (some (.refused (field.refusal argument)), draft) := by
  rw [store_eq, apply_field, DraftKind.setField_of_not_takes refused]
  rfl

/-- In every draft that was filled by setters, of which some may have failed, the setter of a
field succeeds or reports its argument, and nothing else.  It fails exactly for an argument
that it does not take, whatever was set before.  A call that fails is as if it had not been
made: whatever is called afterwards, the draft is the same as without it, and so is built into
the same request or reports the same fault. -/
theorem setter_fails_for_argument_alone (kind : DraftKind) (earlier : List (Setter × Value))
    (field : Field) (argument : Value) :
    let filled := kind.fresh.storeAll earlier
    let fault? := (filled.store (.field field) argument).1
    (fault?.isSome = true ↔ ¬ field.Takes argument) ∧
      (∀ fault, fault? = some fault →
        fault = .refused (field.refusal argument) ∧ fault.IsOfArgument) ∧
      (fault?.isSome = true → ∀ later : List (Setter × Value),
        kind.fresh.storeAll (earlier ++ (.field field, argument) :: later) =
          kind.fresh.storeAll (earlier ++ later)) := by
  intro filled fault?
  have records := (records_fresh kind).afterCalls earlier
  rw [← storeAll_eq_afterCalls] at records
  by_cases takes : field.Takes argument
  · have succeeded : fault? = none := records.store_of_takes takes
    rw [succeeded]
    refine ⟨iff_of_false nofun (not_not_intro takes), nofun, nofun⟩
  · have failed := store_of_not_takes takes filled
    have reported : fault? = some (.refused (field.refusal argument)) := congrArg Prod.fst failed
    rw [reported]
    refine ⟨iff_of_true rfl takes, ?_, ?_⟩
    · intro fault same
      cases same
      exact ⟨rfl, field.isOfArgument_refusal argument⟩
    · intro _ later
      have unchanged : (filled.store (.field field) argument).2 = filled := congrArg Prod.snd failed
      rw [storeAll, storeAll, List.foldl_append, List.foldl_append, List.foldl_cons]
      exact congrArg (List.foldl _ · later) unchanged

/-- A list of certificates with a number behind a text is refused, though the texts before it
could be stored, and the certificates that were set before stay. -/
theorem mixed_certificates_are_refused :
    let earlier := [(Setter.field .certificates, Value.list [.str "1"])]
    let mixed := Value.tuple [.str "2", .int 3]
    let filled := DraftKind.update.fresh.storeAll earlier
    ¬ Field.certificates.Takes mixed ∧
      (filled.store (.field .certificates) mixed).1.isSome = true ∧
      DraftKind.update.fresh.storeAll
          (earlier ++ [(.field .certificates, mixed), (.field .enabled, .bool true)]) =
        DraftKind.update.fresh.storeAll (earlier ++ [(.field .enabled, .bool true)]) := by
  intro earlier mixed filled
  obtain ⟨refused_iff, _, unchanged⟩ :=
    setter_fails_for_argument_alone .update earlier .certificates mixed
  have failed : (filled.store (.field .certificates) mixed).1.isSome = true := rfl
  exact ⟨refused_iff.mp failed, failed, unchanged failed _⟩

end AnyDraft

end SamlAdmin
