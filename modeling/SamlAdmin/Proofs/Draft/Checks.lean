import SamlAdmin.Proofs.Except
import SamlAdmin.Proofs.ProviderId
import SamlAdmin.Draft

/-!
# The first fault of a draft

The fields of a draft are checked one after the other.  `Field.rank` is the place of a
field in that order.  The fault that is reported is about the field of the least rank
that fails its check, and a draft without such a field becomes a request.  The two kinds
of drafts differ in one thing only: a draft for an update passes over the fields that
were not set.
-/

namespace SamlAdmin

namespace Field

def rank : Field → Nat
  | .idpEntityId => 0
  | .ssoUrl => 1
  | .certificates => 2
  | .rpEntityId => 3
  | .callbackUrl => 4
  | .enabled => 5
  | .requestSigning => 6
  | .displayName => 7

theorem mem_all (field : Field) : field ∈ Field.all := by
  cases field <;> decide

/-- The checks go through the fields by rank. -/
theorem sorted_all : all.Pairwise (fun earlier later => earlier.rank < later.rank) := by
  decide

theorem rank_injective {left right : Field} (same : left.rank = right.rank) : left = right := by
  have apart : ∀ left ∈ all, ∀ right ∈ all, left.rank = right.rank → left = right := by decide
  exact apart left left.mem_all right right.mem_all same

end Field

namespace Draft

variable {field : Field} {held : Option Leaf} {fault : Fault} {fields : FieldMap}
  {listed : List Field}

/-! ## One field -/

/-- The field that a fault is about. -/
def Fault.field? : Fault → Option Field
  | .providerId _ => none
  | .noFields _ => none
  | .empty field => some field
  | .unacceptable field _ => some field
  | .emptyCertificate => some .certificates
  | .notBoolean field => some field
  | .notText field => some field

theorem field?_of_checkText (failed : checkText field held = .error fault) :
    fault.field? = some field := by
  unfold checkText at failed
  split at failed
  · cases failed
  · cases failed
    rfl

theorem field?_of_checkUrl (failed : checkUrl field held = .error fault) :
    fault.field? = some field := by
  unfold checkUrl at failed
  split at failed
  · obtain ⟨refusal, _, rfl⟩ := mapError_eq_error_iff.mp failed
    rfl
  · cases failed
    rfl

theorem field?_of_checkCertificates (failed : checkCertificates .certificates held = .error fault) :
    fault.field? = some .certificates := by
  unfold checkCertificates at failed
  split at failed
  · split at failed
    · cases failed
      rfl
    · cases failed
  · cases failed
    rfl

theorem field?_of_checkFlag (failed : checkFlag field held = .error fault) :
    fault.field? = some field := by
  unfold checkFlag at failed
  split at failed
  · cases failed
  · cases failed
  · cases failed
    rfl

theorem field?_of_checkOptionalText (failed : checkOptionalText field held = .error fault) :
    fault.field? = some field := by
  unfold checkOptionalText at failed
  split at failed
  · cases failed
  · cases failed
  · cases failed
  · cases failed
    rfl

theorem field?_of_checkField (failed : checkField field held = .error fault) :
    fault.field? = some field := by
  cases field with
  | idpEntityId => exact field?_of_checkText failed
  | ssoUrl => exact field?_of_checkUrl failed
  | certificates => exact field?_of_checkCertificates failed
  | rpEntityId => exact field?_of_checkText failed
  | callbackUrl => exact field?_of_checkUrl failed
  | enabled => exact field?_of_checkFlag failed
  | requestSigning => exact field?_of_checkFlag failed
  | displayName => exact field?_of_checkOptionalText failed

/-- A field that was not set passes its check unless a new configuration needs it. -/
theorem checkField_none (field : Field) :
    checkField field none = if field.isRequired then .error (.empty field) else .ok () := by
  cases field <;> rfl

/-! ## All fields -/

theorem checkFields_eq_ok_iff :
    checkFields fields listed = .ok () ↔
      ∀ field ∈ listed, checkField field (fields.leaf? field.path) = .ok () := by
  induction listed with
  | nil => exact iff_of_true rfl (List.forall_mem_nil _)
  | cons field rest ih =>
      rw [checkFields, List.forall_mem_cons, ← ih]
      cases checkField field (fields.leaf? field.path) with
      | error fault => simp
      | ok checked => simp

/-- The first fault is that of the least field that fails its check. -/
theorem checkFields_eq_error_iff
    (sorted : listed.Pairwise (fun earlier later => earlier.rank < later.rank)) :
    checkFields fields listed = .error fault ↔
      ∃ field ∈ listed, checkField field (fields.leaf? field.path) = .error fault ∧
        ∀ earlier ∈ listed, earlier.rank < field.rank →
          checkField earlier (fields.leaf? earlier.path) = .ok () := by
  induction listed with
  | nil => simp [checkFields]
  | cons first rest ih =>
      obtain ⟨least, restSorted⟩ := List.pairwise_cons.mp sorted
      rw [checkFields]
      cases checked : checkField first (fields.leaf? first.path) with
      | error other =>
          constructor
          · intro failed
            cases failed
            refine ⟨first, List.mem_cons_self, checked, ?_⟩
            intro earlier member before
            rcases List.mem_cons.mp member with rfl | inRest
            · exact absurd before (Nat.lt_irrefl _)
            · exact absurd (least earlier inRest) (Nat.lt_asymm before)
          · rintro ⟨field, member, failed, passed⟩
            rcases List.mem_cons.mp member with rfl | inRest
            · rw [checked] at failed
              exact failed
            · rw [passed first List.mem_cons_self (least field inRest)] at checked
              cases checked
      | ok _ =>
          rw [ih restSorted]
          constructor
          · rintro ⟨field, member, failed, passed⟩
            refine ⟨field, List.mem_cons_of_mem first member, failed, ?_⟩
            rw [List.forall_mem_cons]
            exact ⟨fun _ => checked, passed⟩
          · rintro ⟨field, member, failed, passed⟩
            rcases List.mem_cons.mp member with rfl | inRest
            · rw [checked] at failed
              cases failed
            · exact ⟨field, inRest, failed, (List.forall_mem_cons.mp passed).2⟩

/-- Fields that pass their checks anyway need not be listed. -/
theorem checkFields_filter {keep : Field → Bool}
    (passed : ∀ field ∈ listed, keep field = false →
      checkField field (fields.leaf? field.path) = .ok ()) :
    checkFields fields (listed.filter keep) = checkFields fields listed := by
  induction listed with
  | nil => rfl
  | cons first rest ih =>
      rw [List.forall_mem_cons] at passed
      cases kept : keep first with
      | true => rw [List.filter_cons_of_pos kept, checkFields, checkFields, ih passed.2]
      | false =>
          rw [List.filter_cons_of_neg (by simp [kept]), checkFields, passed.1 kept, ih passed.2]

def presentFields (fields : FieldMap) : List Field :=
  Field.all.filter fun field => (fields.leaf? field.path).isSome

theorem mem_presentFields {leaf : Leaf} (found : fields.leaf? field.path = some leaf) :
    field ∈ presentFields fields := by
  rw [presentFields, List.mem_filter, found]
  exact ⟨field.mem_all, rfl⟩

theorem exists_leaf_of_mem_presentFields (member : field ∈ presentFields fields) :
    ∃ leaf, fields.leaf? field.path = some leaf :=
  Option.isSome_iff_exists.mp (List.mem_filter.mp member).2

theorem sorted_presentFields (fields : FieldMap) :
    (presentFields fields).Pairwise (fun earlier later => earlier.rank < later.rank) :=
  List.Pairwise.filter _ Field.sorted_all

end Draft

/-! ## Drafts as a whole -/

theorem UpdateDraft.build_of_isEmpty {draft : UpdateDraft} (empty : draft.fields.isEmpty = true) :
    draft.build = .error (.noFields "update") := by
  rw [build, empty]
  rfl

theorem UpdateDraft.build_of_filled {draft : UpdateDraft} (filled : draft.fields.isEmpty = false) :
    draft.build =
      (Draft.checkFields draft.fields (Draft.presentFields draft.fields)).map
        fun _ => draft.fields := by
  rw [build, filled]
  rfl

theorem CreateDraft.build_of_isEmpty {draft : CreateDraft} {id : Text}
    (given : draft.providerId = .str id) (formed : ProviderId.WellFormed id)
    (empty : draft.fields.isEmpty = true) : draft.build = .error (.noFields "create") := by
  rw [build, ProviderId.validate_eq_ok_iff_wellFormed.mpr ⟨given, formed⟩, empty]
  rfl

theorem CreateDraft.build_of_filled {draft : CreateDraft} {id : Text}
    (given : draft.providerId = .str id) (formed : ProviderId.WellFormed id)
    (filled : draft.fields.isEmpty = false) :
    draft.build = (Draft.checkFields draft.fields Field.all).map fun _ => (draft.fields, id) := by
  rw [build, ProviderId.validate_eq_ok_iff_wellFormed.mpr ⟨given, formed⟩, filled]
  rfl

/-- A draft for an update becomes a request exactly if a field was set and every field that
was set passes its check. -/
theorem UpdateDraft.build_eq_ok_iff {draft : UpdateDraft} {fields : FieldMap} :
    draft.build = .ok fields ↔ fields = draft.fields ∧ draft.fields.isEmpty = false ∧
      ∀ field leaf, draft.fields.leaf? field.path = some leaf →
        Draft.checkField field (some leaf) = .ok () := by
  cases empty : draft.fields.isEmpty with
  | true =>
      rw [build_of_isEmpty empty]
      simp
  | false =>
      rw [build_of_filled empty, map_eq_ok_iff]
      constructor
      · rintro ⟨_, passed, rfl⟩
        refine ⟨rfl, rfl, ?_⟩
        intro field leaf found
        rw [← found]
        exact Draft.checkFields_eq_ok_iff.mp passed field (Draft.mem_presentFields found)
      · rintro ⟨rfl, _, passed⟩
        refine ⟨(), Draft.checkFields_eq_ok_iff.mpr ?_, rfl⟩
        intro field member
        obtain ⟨leaf, found⟩ := Draft.exists_leaf_of_mem_presentFields member
        rw [found]
        exact passed field leaf found

theorem CreateDraft.build_eq_ok_iff {draft : CreateDraft} {fields : FieldMap} {id : Text} :
    draft.build = .ok (fields, id) ↔
      fields = draft.fields ∧ draft.providerId = .str id ∧ ProviderId.WellFormed id ∧
        draft.fields.isEmpty = false ∧
        ∀ field : Field, Draft.checkField field (draft.fields.leaf? field.path) = .ok () := by
  constructor
  · intro built
    cases validated : ProviderId.validate draft.providerId with
    | error invalid =>
        rw [build, validated] at built
        cases built
    | ok taken =>
        obtain ⟨given, formed⟩ := ProviderId.validate_eq_ok_iff_wellFormed.mp validated
        cases empty : draft.fields.isEmpty with
        | true =>
            rw [build_of_isEmpty given formed empty] at built
            cases built
        | false =>
            rw [build_of_filled given formed empty, map_eq_ok_iff] at built
            obtain ⟨_, passed, same⟩ := built
            cases same
            refine ⟨rfl, given, formed, rfl, ?_⟩
            intro field
            exact Draft.checkFields_eq_ok_iff.mp passed field field.mem_all
  · rintro ⟨rfl, given, formed, filled, passed⟩
    rw [build_of_filled given formed filled, map_eq_ok_iff]
    exact ⟨(), Draft.checkFields_eq_ok_iff.mpr fun field _ => passed field, rfl⟩

/-- The fault of a filled draft for an update is that of the least field that was set and
fails its check. -/
theorem UpdateDraft.build_eq_error_iff {draft : UpdateDraft}
    (filled : draft.fields.isEmpty = false) {fault : Draft.Fault} :
    draft.build = .error fault ↔
      ∃ field leaf, draft.fields.leaf? field.path = some leaf ∧
        Draft.checkField field (some leaf) = .error fault ∧
        ∀ earlier held, earlier.rank < field.rank →
          draft.fields.leaf? earlier.path = some held →
          Draft.checkField earlier (some held) = .ok () := by
  rw [build_of_filled filled, map_eq_error_iff,
    Draft.checkFields_eq_error_iff (Draft.sorted_presentFields draft.fields)]
  constructor
  · rintro ⟨field, member, failed, passed⟩
    obtain ⟨leaf, found⟩ := Draft.exists_leaf_of_mem_presentFields member
    rw [found] at failed
    refine ⟨field, leaf, found, failed, ?_⟩
    intro earlier held before isHeld
    rw [← isHeld]
    exact passed earlier (Draft.mem_presentFields isHeld) before
  · rintro ⟨field, leaf, found, failed, passed⟩
    rw [← found] at failed
    refine ⟨field, Draft.mem_presentFields found, failed, ?_⟩
    intro earlier member before
    obtain ⟨held, isHeld⟩ := Draft.exists_leaf_of_mem_presentFields member
    rw [isHeld]
    exact passed earlier held before isHeld

theorem CreateDraft.build_eq_error_iff {draft : CreateDraft} {id : Text}
    (given : draft.providerId = .str id) (formed : ProviderId.WellFormed id)
    (filled : draft.fields.isEmpty = false) {fault : Draft.Fault} :
    draft.build = .error fault ↔
      ∃ field : Field, Draft.checkField field (draft.fields.leaf? field.path) = .error fault ∧
        ∀ earlier : Field, earlier.rank < field.rank →
          Draft.checkField earlier (draft.fields.leaf? earlier.path) = .ok () := by
  rw [build_of_filled given formed filled, map_eq_error_iff,
    Draft.checkFields_eq_error_iff Field.sorted_all]
  constructor
  · rintro ⟨field, _, failed, passed⟩
    exact ⟨field, failed, fun earlier before => passed earlier earlier.mem_all before⟩
  · rintro ⟨field, failed, passed⟩
    exact ⟨field, field.mem_all, failed, fun earlier _ before => passed earlier before⟩

end SamlAdmin
