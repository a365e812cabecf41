import SamlAdmin.Proofs.Client.ReadBack
import SamlAdmin.Proofs.Resource.Shape

/-!
# The body of a new configuration

The checks of a draft are made on its leaves, and a resource is read from the values that
stand for them in a body.  A leaf that passes its check becomes a value of the type that its
field requires, with one exception: the check of the name is shared with updates and lets
the mark of a cleared field pass, which becomes a null.  So the body of a new configuration
is as typed as the resource exactly if the name was not cleared last.
-/

namespace SamlAdmin

/-- Whether a value in a body has the type that a field requires. -/
def Field.HasType (value : Value) : Field → Prop
  | .idpEntityId | .ssoUrl | .rpEntityId | .callbackUrl => ∃ text, value = .str text ∧ text ≠ []
  | .certificates => ∃ certificates : List Certificate,
      value = .list (certificates.map Leaf.certificateBody) ∧ certificates ≠ [] ∧
      ∀ certificate ∈ certificates, certificate.pem ≠ []
  | .enabled | .requestSigning => ∃ flag, value = .bool flag
  | .displayName => ∃ text, value = .str text

/-- Whether a field stands at a path of a body, with a value of the type that it requires. -/
def Value.IsTypedAt (path : List Text) (body : Value) : Prop :=
  ∃ (field : Field) (value : Value), path = field.segments ∧ body.at? path = some value ∧
    field.HasType value

/-! ## Leaves that were checked -/

namespace Draft

variable {field : Field} {leaf : Leaf}

theorem exists_text_of_checkText (checked : checkText field (some leaf) = .ok ()) :
    ∃ text, leaf.toBody = .str text ∧ text ≠ [] := by
  cases leaf with
  | text value =>
      cases value with
      | nil => cases checked
      | cons first rest => exact ⟨first :: rest, rfl, List.cons_ne_nil first rest⟩
  | _ => cases checked

theorem checkText_of_checkUrl (checked : checkUrl field (some leaf) = .ok ()) :
    checkText field (some leaf) = .ok () := by
  cases leaf with
  | text value =>
      cases value with
      | nil => cases checked
      | cons first rest => rfl
  | _ => cases checked

theorem exists_certificates_of_checkCertificates
    (checked : checkCertificates field (some leaf) = .ok ()) :
    ∃ certificates : List Certificate, leaf.toBody = .list (certificates.map Leaf.certificateBody) ∧
      certificates ≠ [] ∧ ∀ certificate ∈ certificates, certificate.pem ≠ [] := by
  cases leaf with
  | certificates value =>
      cases value with
      | nil => cases checked
      | cons first rest =>
          rw [checkCertificates] at checked
          split at checked
          case isTrue => cases checked
          case isFalse filled =>
              refine ⟨first :: rest, rfl, List.cons_ne_nil first rest, ?_⟩
              intro certificate member empty
              apply filled
              rw [List.any_eq_true]
              exact ⟨certificate, member, List.isEmpty_iff.mpr empty⟩
  | _ => cases checked

theorem exists_flag_of_checkFlag (checked : checkFlag field (some leaf) = .ok ()) :
    ∃ flag, leaf.toBody = .bool flag := by
  cases leaf with
  | flag value => exact ⟨value, rfl⟩
  | _ => cases checked

/-- A leaf that passes its check stands in a body as a value of the type that its field
requires, unless it clears the name. -/
theorem hasType_of_checkField (checked : checkField field (some leaf) = .ok ()) :
    field.HasType leaf.toBody ∨ field = .displayName ∧ leaf = .cleared := by
  cases field with
  | idpEntityId => exact Or.inl (exists_text_of_checkText checked)
  | ssoUrl => exact Or.inl (exists_text_of_checkText (checkText_of_checkUrl checked))
  | certificates => exact Or.inl (exists_certificates_of_checkCertificates checked)
  | rpEntityId => exact Or.inl (exists_text_of_checkText checked)
  | callbackUrl => exact Or.inl (exists_text_of_checkText (checkText_of_checkUrl checked))
  | enabled => exact Or.inl (exists_flag_of_checkFlag checked)
  | requestSigning => exact Or.inl (exists_flag_of_checkFlag checked)
  | displayName =>
      cases leaf with
      | text value => exact Or.inl ⟨value, rfl⟩
      | cleared => exact Or.inr ⟨rfl, rfl⟩
      | _ => cases checked

end Draft

/-! ## The body as a whole -/

/-- A new configuration stores a name as it is given. -/
theorem DraftKind.leafOf?_create_eq_cleared_iff {argument : Value} :
    DraftKind.create.leafOf? .displayName argument = some .cleared ↔ argument = .null := by
  rw [leafOf?_of_ne_certificates Field.noConfusion]
  constructor
  · intro isLeaf
    exact Leaf.eq_toValue_of_ofValue? isLeaf
  · intro isNull
    subst isNull
    rfl

theorem Resource.ofBody_of_null_name {body : Value} {resource : Resource}
    (null : body.at? Field.displayName.segments = some .null) :
    Resource.ofBody body ≠ .ok resource := by
  intro read
  rw [Field.segments_eq_keys] at null
  have shaped : body.IsResource :=
    (Reading.accepts_resource body).mp ⟨resource, Resource.ofBody_eq_ok_iff.mp read⟩
  cases body with
  | object members =>
      obtain ⟨value, found, same⟩ := Option.bind_eq_some_iff.mp null
      cases same
      have counts : Reading.effective ⟨"displayName", "display_name"⟩ members =
          some (("displayName" : Text), Value.null) := by
        simp only [Reading.effective, found]
      exact shaped (⟨"displayName", "display_name"⟩, Value.IsText) (by simp) _ _ counts
  | _ => cases null

namespace AnyDraft

variable {fields : FieldMap}

section Typed

variable {kind : DraftKind} {last : Field → Option Value} {draft : AnyDraft}

/-- What is found for a field stands in the body in its type, unless it clears the name. -/
theorem Builds.isTypedAt (builds : draft.Builds fields) {field : Field} {leaf : Leaf}
    (found : fields.leaf? field.path = some leaf) :
    fields.toBody.IsTypedAt field.segments ∨ field = .displayName ∧ leaf = .cleared :=
  (Draft.hasType_of_checkField (builds.checked found)).imp_left fun typed =>
    ⟨field, leaf.toBody, rfl, FieldMap.at?_toBody found, typed⟩

theorem not_isTypedAt_of_cleared
    (found : fields.leaf? Field.displayName.path = some .cleared) :
    ¬fields.toBody.IsTypedAt Field.displayName.segments := by
  intro typed
  obtain ⟨field, value, isPath, stands, hasType⟩ := typed
  obtain rfl := Field.segments_injective isPath
  have null : fields.toBody.at? Field.displayName.segments = some .null := FieldMap.at?_toBody found
  obtain ⟨text, rfl⟩ := hasType
  rw [null] at stands
  cases stands

/-- A leaf of the body is a field that was set. -/
theorem Records.exists_field_of_mem_leafPaths (records : draft.Records kind last)
    (builds : draft.Builds fields) {path : List Text} (isLeaf : path ∈ fields.toBody.leafPaths) :
    ∃ (field : Field) (leaf : Leaf), path = field.segments ∧ fields.leaf? field.path = some leaf := by
  obtain rfl := builds.eq_fields
  obtain ⟨leaf, found⟩ := Option.isSome_iff_exists.mp (records.proper.mem_leafPaths_iff.mp isLeaf)
  obtain ⟨field, rfl⟩ := records.onlyFields path leaf found
  exact ⟨field, leaf, rfl, found⟩

/-- Every leaf of the body has its type, unless it is a null in the place of the name. -/
theorem Records.isTypedAt_or_null (records : draft.Records kind last)
    (builds : draft.Builds fields) {path : List Text} (isLeaf : path ∈ fields.toBody.leafPaths) :
    fields.toBody.IsTypedAt path ∨
      path = Field.displayName.segments ∧ fields.toBody.at? path = some .null := by
  obtain ⟨field, leaf, rfl, found⟩ := records.exists_field_of_mem_leafPaths builds isLeaf
  rcases builds.isTypedAt found with typed | ⟨rfl, rfl⟩
  · exact Or.inl typed
  · exact Or.inr ⟨rfl, FieldMap.at?_toBody found⟩

theorem Records.leaf?_of_null_name (records : draft.Records .create last)
    (isNull : last .displayName = some .null) :
    draft.fields.leaf? Field.displayName.path = some .cleared := by
  obtain ⟨leaf, isLeaf, found⟩ := records.given .displayName .null isNull
  rw [DraftKind.leafOf?_create_eq_cleared_iff.mpr rfl] at isLeaf
  cases isLeaf
  exact found

/-- There is a null in the body of a new configuration exactly if the name was set to null
last. -/
theorem Records.holdsNull_create_iff (records : draft.Records .create last)
    (builds : draft.Builds fields) :
    fields.toBody.holdsNull = true ↔ last .displayName = some .null := by
  rw [records.holdsNull_iff builds]
  simp only [DraftKind.leafOf?_create_eq_cleared_iff, exists_eq_right]

theorem Builds.exists_leaf_of_isRequired (builds : draft.Builds fields)
    (ofKind : draft.kind = .create) {field : Field} (needed : field.isRequired = true) :
    ∃ leaf, fields.leaf? field.path = some leaf := by
  cases builds with
  | update built => cases ofKind
  | create built =>
      obtain ⟨rfl, _, _, _, passed⟩ := CreateDraft.build_eq_ok_iff.mp built
      cases isHeld : FieldMap.leaf? field.path _ with
      | some leaf => exact ⟨leaf, rfl⟩
      | none =>
          have checked := passed field
          rw [isHeld, Draft.checkField_none, needed] at checked
          cases checked

end Typed

/-- The body of a new configuration, after any calls.  It has all that is needed, and every
leaf in it has the type that its field requires, but for a null in the place of the name.  All
leaves have their type, there is no null, and the body is accepted as a resource, exactly if
the name was not set to null last. -/
theorem create_body_is_typed_iff {calls : List (Setter × Value)}
    (builds : (afterCalls calls DraftKind.create.fresh).Builds fields) :
    let nameIsNull :=
      Field.displayName.lastArgument none (accepted calls DraftKind.create.fresh) = some .null
    (∀ field : Field, field.isRequired = true → fields.toBody.IsTypedAt field.segments) ∧
    (∀ path ∈ fields.toBody.leafPaths, fields.toBody.IsTypedAt path ∨
      path = Field.displayName.segments ∧ fields.toBody.at? path = some .null) ∧
    ((∀ path ∈ fields.toBody.leafPaths, fields.toBody.IsTypedAt path) ↔ ¬nameIsNull) ∧
    (fields.toBody.holdsNull = true ↔ nameIsNull) ∧
    ((∃ resource, Resource.ofBody fields.toBody = .ok resource) ↔ ¬nameIsNull) := by
  intro nameIsNull
  have records := (records_fresh .create).afterCalls calls
  have holdsNull_iff : fields.toBody.holdsNull = true ↔ nameIsNull :=
    records.holdsNull_create_iff builds
  have cleared_of_null : nameIsNull → fields.leaf? Field.displayName.path = some .cleared := by
    rw [builds.eq_fields]
    exact records.leaf?_of_null_name
  refine ⟨?_, fun path isLeaf => records.isTypedAt_or_null builds isLeaf, ?_, holdsNull_iff, ?_⟩
  · intro field needed
    obtain ⟨leaf, found⟩ := builds.exists_leaf_of_isRequired records.ofKind needed
    rcases builds.isTypedAt found with typed | ⟨rfl, _⟩
    · exact typed
    · cases needed
  · constructor
    · intro typed isNull
      have found := cleared_of_null isNull
      have isLeaf : Field.displayName.segments ∈ fields.toBody.leafPaths := by
        rw [builds.eq_fields] at found ⊢
        exact records.proper.mem_leafPaths_iff.mpr (Option.isSome_of_eq_some found)
      exact not_isTypedAt_of_cleared found (typed _ isLeaf)
    · intro notNull path isLeaf
      rcases records.isTypedAt_or_null builds isLeaf with typed | ⟨_, null⟩
      · exact typed
      · exact absurd (holdsNull_iff.mp (Value.holdsNull_of_at? null)) notNull
  · constructor
    · intro isAccepted isNull
      obtain ⟨resource, read⟩ := isAccepted
      exact Resource.ofBody_of_null_name (FieldMap.at?_toBody (cleared_of_null isNull)) read
    · intro notNull
      have noNull : fields.toBody.holdsNull = false := by
        rw [Bool.eq_false_iff]
        exact fun null => notNull (holdsNull_iff.mp null)
      exact ⟨_, records.ofBody_toBody builds noNull⟩

/-- Calls that set all that is needed, and the name to null. -/
def namelessCalls : List (Setter × Value) :=
  [(.providerId, .str "saml.provider"), (.field .idpEntityId, .str "idp"),
   (.field .ssoUrl, .str "urn:sso"), (.field .certificates, .list [.str "1"]),
   (.field .rpEntityId, .str "rp"), (.field .callbackUrl, .str "urn:back"),
   (.field .displayName, .null)]

/-- A new configuration becomes a request after these calls, with a null in its body, which
is not accepted as a resource. -/
theorem create_body_of_nameless_holds_null :
    ∃ fields, (afterCalls namelessCalls DraftKind.create.fresh).Builds fields ∧
      fields.toBody.holdsNull = true ∧
      ¬∃ resource, Resource.ofBody fields.toBody = .ok resource := by
  have builds : (afterCalls namelessCalls DraftKind.create.fresh).Builds
      (afterCalls namelessCalls DraftKind.create.fresh).fields := .create rfl
  obtain ⟨_, _, _, holdsNull_iff, accepted_iff⟩ := create_body_is_typed_iff builds
  refine ⟨_, builds, holdsNull_iff.mpr rfl, ?_⟩
  intro accepted
  exact accepted_iff.mp accepted rfl

end AnyDraft

end SamlAdmin
