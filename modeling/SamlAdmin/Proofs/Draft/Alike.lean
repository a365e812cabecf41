import SamlAdmin.Proofs.Draft.Record
import SamlAdmin.Proofs.FieldMap.Change

/-!
# Drafts of both kinds side by side

The setters of a field are shared by drafts of both kinds, and so are the checks.  Given the
same calls, a draft for an update is at every moment the image of the draft of a new
configuration: it holds the same leaves under the same paths, except that an empty name
clears the name.  `CreateDraft.asUpdate` is this image.  The two are then checked alike in
the fields that were set, and a draft of a new configuration also fails for a required
field that was not.
-/

namespace SamlAdmin

/-- A leaf as an update holds it: an empty text in the place of the name clears the name. -/
def Leaf.forUpdate (path : List Text) : Leaf → Leaf
  | .text [] => if path = Field.displayName.segments then .cleared else .text []
  | leaf => leaf

theorem Leaf.forUpdate_of_kept {path : List Text} {leaf : Leaf}
    (kept : leaf = .text [] → path ≠ Field.displayName.segments) : leaf.forUpdate path = leaf := by
  unfold forUpdate
  split
  · exact if_neg (kept rfl)
  · rfl

/-- The draft for an update that is filled by the same calls. -/
def CreateDraft.asUpdate (draft : CreateDraft) : UpdateDraft where
  fields := draft.fields.mapLeaves Leaf.forUpdate

/-! ## In step -/

section Step

open Draft

variable {field : Field} {argument value : Value} {fields : FieldMap}

theorem Draft.setField_of_stored (isStored : stored field argument = .ok value) :
    setField field argument fields = (fields.set (.str field.path) value).mapError .field := by
  rw [setField, isStored]

theorem Draft.setField_of_refused {refusal : Refusal}
    (refused : stored field argument = .error refusal) :
    setField field argument fields = .error refusal := by
  rw [setField, refused]

/-- Only the name is stored as an empty text that an update takes for something else. -/
theorem Draft.forUpdate_of_stored (kept : argument = .str [] → field ≠ .displayName)
    (isStored : stored field argument = .ok value) {leaf : Leaf}
    (isLeaf : Leaf.ofValue? value = some leaf) : leaf.forUpdate field.segments = leaf := by
  apply Leaf.forUpdate_of_kept
  intro empty isNamePath
  subst empty
  have isName := Field.segments_injective isNamePath
  subst isName
  rw [stored_of_ne_certificates Field.noConfusion] at isStored
  cases isStored
  exact kept (Leaf.eq_toValue_of_ofValue? isLeaf) rfl

/-- The setter of an update does to the image what the setter of a new configuration does to
the fields. -/
theorem Draft.setField_argumentFor (field : Field) (argument : Value) (fields : FieldMap) :
    setField field (UpdateDraft.argumentFor field argument) (fields.mapLeaves Leaf.forUpdate) =
      (setField field argument fields).map (FieldMap.mapLeaves Leaf.forUpdate) := by
  by_cases clears : field = .displayName ∧ argument = .str []
  · obtain ⟨rfl, rfl⟩ := clears
    have isCleared : Leaf.ofValue? .null =
        (Leaf.ofValue? (.str [])).map (Leaf.forUpdate Field.displayName.segments) := by
      decide
    have givesNull : stored .displayName (UpdateDraft.argumentFor .displayName (.str [])) =
        .ok .null := rfl
    have givesText : stored .displayName (.str []) = .ok (.str []) := rfl
    rw [setField_of_stored givesNull, setField_of_stored givesText,
      FieldMap.set_mapLeaves isCleared (Or.inr rfl)]
    cases fields.set (.str Field.displayName.path) (.str []) <;> rfl
  · have kept : argument = .str [] → field ≠ .displayName :=
      fun empty isName => clears ⟨isName, empty⟩
    rw [UpdateDraft.argumentFor_of_kept kept]
    cases isStored : stored field argument with
    | error refusal =>
        rw [setField_of_refused isStored, setField_of_refused isStored]
        rfl
    | ok value =>
        have isKept : Leaf.ofValue? value =
            (Leaf.ofValue? value).map (Leaf.forUpdate field.segments) := by
          cases isLeaf : Leaf.ofValue? value with
          | none => rfl
          | some leaf => rw [Option.map_some, forUpdate_of_stored kept isStored isLeaf]
        rw [setField_of_stored isStored, setField_of_stored isStored,
          FieldMap.set_mapLeaves isKept (Or.inl rfl)]
        cases fields.set (.str field.path) value <;> rfl

/-- A setter of both drafts takes the same arguments and keeps the image. -/
theorem CreateDraft.asUpdate_set (field : Field) (argument : Value) (draft : CreateDraft) :
    draft.asUpdate.set field argument = (draft.set field argument).map asUpdate := by
  rw [UpdateDraft.set, CreateDraft.set, asUpdate, setField_argumentFor]
  cases setField field argument draft.fields <;> rfl

end Step

theorem CreateDraft.providerId_of_set {draft changed : CreateDraft} {field : Field}
    {argument : Value} (accepted : draft.set field argument = .ok changed) :
    changed.providerId = draft.providerId := by
  rw [set, map_eq_ok_iff] at accepted
  obtain ⟨fields, _, rfl⟩ := accepted
  rfl

/-- Calls of the setters of fields. -/
def Setter.calls (calls : List (Field × Value)) : List (Setter × Value) :=
  calls.map fun call => (.field call.1, call.2)

/-- The same calls succeed on both drafts, and leave the image in the one where they leave
the draft in the other. -/
theorem CreateDraft.asUpdate_afterCalls (calls : List (Field × Value)) (draft : CreateDraft) :
    ∃ filled : CreateDraft,
      AnyDraft.afterCalls (Setter.calls calls) (.create draft) = .create filled ∧
      AnyDraft.afterCalls (Setter.calls calls) (.update draft.asUpdate) = .update filled.asUpdate ∧
      filled.providerId = draft.providerId ∧
      AnyDraft.accepted (Setter.calls calls) (.update draft.asUpdate) =
        AnyDraft.accepted (Setter.calls calls) (.create draft) := by
  induction calls generalizing draft with
  | nil => exact ⟨draft, rfl, rfl, rfl, rfl⟩
  | cons call calls ih =>
      obtain ⟨field, argument⟩ := call
      have inStep := asUpdate_set field argument draft
      simp only [Setter.calls, List.map_cons, AnyDraft.afterCalls, List.foldl_cons,
        AnyDraft.afterCall, AnyDraft.apply, AnyDraft.accepted, inStep]
      cases made : draft.set field argument with
      | error refusal => exact ih draft
      | ok changed =>
          obtain ⟨filled, left, leftImage, sameId, sameCalls⟩ := ih changed
          refine ⟨filled, left, leftImage, sameId.trans (providerId_of_set made), ?_⟩
          exact congrArg _ sameCalls

/-! ## Checks -/

namespace CreateDraft

variable {draft : CreateDraft} {id : Text}

theorem leaf?_asUpdate (field : Field) :
    draft.asUpdate.fields.leaf? field.path =
      (draft.fields.leaf? field.path).map (Leaf.forUpdate field.segments) :=
  FieldMap.find?_mapLeaves field.segments

/-- A field of the image is checked like the field itself: the name passes its check both as
an empty text and as cleared. -/
theorem checkField_asUpdate (field : Field) :
    Draft.checkField field (draft.asUpdate.fields.leaf? field.path) =
      Draft.checkField field (draft.fields.leaf? field.path) := by
  rw [leaf?_asUpdate]
  cases draft.fields.leaf? field.path with
  | none => rfl
  | some leaf =>
      by_cases isName : field = .displayName
      · subst isName
        rw [Option.map_some, Leaf.forUpdate.eq_def]
        split
        · rfl
        · rfl
      · have kept : leaf.forUpdate field.segments = leaf :=
          Leaf.forUpdate_of_kept fun _ same => isName (Field.segments_injective same)
        rw [Option.map_some, kept]

theorem isSome_leaf?_asUpdate (field : Field) :
    (draft.asUpdate.fields.leaf? field.path).isSome =
      (draft.fields.leaf? field.path).isSome := by
  rw [leaf?_asUpdate, Option.isSome_map]

theorem checkFields_asUpdate (listed : List Field) :
    Draft.checkFields draft.asUpdate.fields listed = Draft.checkFields draft.fields listed := by
  induction listed with
  | nil => rfl
  | cons field rest ih => rw [Draft.checkFields, Draft.checkFields, checkField_asUpdate, ih]

theorem presentFields_asUpdate :
    Draft.presentFields draft.asUpdate.fields = Draft.presentFields draft.fields := by
  simp only [Draft.presentFields, isSome_leaf?_asUpdate]

/-- Once all required fields are set, the image becomes a request exactly as the draft does,
or fails with the same fault. -/
theorem build_asUpdate (given : draft.providerId = .str id) (formed : ProviderId.WellFormed id)
    (complete : ∀ field : Field, field.isRequired = true →
      (draft.fields.leaf? field.path).isSome = true) :
    draft.asUpdate.build = draft.build.map fun made => made.1.mapLeaves Leaf.forUpdate := by
  have filled : draft.fields.isEmpty = false := by
    have isSet := complete .idpEntityId rfl
    cases fields : draft.fields with
    | empty =>
        rw [fields] at isSet
        cases isSet
    | leaf key value rest => rfl
    | group key children rest => rfl
  have filledImage : draft.asUpdate.fields.isEmpty = false := by
    rw [asUpdate, FieldMap.isEmpty_mapLeaves, filled]
  have others : Draft.checkFields draft.fields (Draft.presentFields draft.fields) =
      Draft.checkFields draft.fields Field.all := by
    apply Draft.checkFields_filter
    intro field _ isUnset
    have unset : draft.fields.leaf? field.path = none := by
      rw [← Option.not_isSome_iff_eq_none, isUnset]
      decide
    have optional : field.isRequired = false := by
      rw [Bool.eq_false_iff]
      intro required
      exact absurd (complete field required) (by rw [isUnset]; decide)
    rw [unset, Draft.checkField_none, optional]
    rfl
  rw [build_of_filled given formed filled, UpdateDraft.build_of_filled filledImage,
    presentFields_asUpdate, checkFields_asUpdate, others]
  cases Draft.checkFields draft.fields Field.all <;> rfl

/-- A field that fails its check in the draft, and would not in the image if it were set
there, is a required field that was not set. -/
theorem unset_of_fails_alone {field : Field} {fault : Draft.Fault}
    (failed : Draft.checkField field (draft.fields.leaf? field.path) = .error fault)
    (passed : ∀ held, draft.asUpdate.fields.leaf? field.path = some held →
      Draft.checkField field (some held) = .ok ()) :
    draft.fields.leaf? field.path = none ∧ field.isRequired = true ∧ fault = .empty field := by
  cases isHeld : draft.fields.leaf? field.path with
  | some leaf =>
      have inImage : draft.asUpdate.fields.leaf? field.path = some (leaf.forUpdate field.segments) := by
        rw [leaf?_asUpdate, isHeld]
        rfl
      have passes := passed _ inImage
      rw [← inImage, checkField_asUpdate, failed] at passes
      cases passes
  | none =>
      rw [isHeld, Draft.checkField_none] at failed
      cases needed : field.isRequired with
      | true =>
          rw [needed] at failed
          cases failed
          exact ⟨rfl, rfl, rfl⟩
      | false =>
          rw [needed] at failed
          cases failed

/-- As long as a required field is not set, the draft fails, and its fault is no later than
that of its image. -/
theorem build_of_incomplete (given : draft.providerId = .str id)
    (formed : ProviderId.WellFormed id) {required : Field} (needed : required.isRequired = true)
    (isUnset : draft.fields.leaf? required.path = none) :
    ∃ fault, draft.build = .error fault ∧ ∀ other, draft.asUpdate.build = .error other →
      other ≠ .noFields "update" → ∃ field, other.field? = some field ∧
        (fault = other ∨ ∃ missing : Field, fault = .empty missing ∧ missing.isRequired = true ∧
          draft.fields.leaf? missing.path = none ∧ missing.rank < field.rank) := by
  cases filled : draft.fields.isEmpty with
  | true =>
      refine ⟨.noFields "create", build_of_isEmpty given formed filled, ?_⟩
      intro other failed notEmpty
      have emptyImage : draft.asUpdate.fields.isEmpty = true := by
        rw [asUpdate, FieldMap.isEmpty_mapLeaves, filled]
      rw [UpdateDraft.build_of_isEmpty emptyImage] at failed
      cases failed
      exact absurd rfl notEmpty
  | false =>
      have filledImage : draft.asUpdate.fields.isEmpty = false := by
        rw [asUpdate, FieldMap.isEmpty_mapLeaves, filled]
      cases built : draft.build with
      | ok made =>
          obtain ⟨_, _, _, _, passed⟩ := build_eq_ok_iff.mp built
          have requiredPassed := passed required
          rw [isUnset, Draft.checkField_none, needed] at requiredPassed
          cases requiredPassed
      | error fault =>
          refine ⟨fault, rfl, ?_⟩
          intro other failed _
          obtain ⟨field, failedCheck, passed⟩ := (build_eq_error_iff given formed filled).mp built
          obtain ⟨later, leaf, found, failedLater, passedImage⟩ :=
            (UpdateDraft.build_eq_error_iff filledImage).mp failed
          rw [← found, checkField_asUpdate] at failedLater
          refine ⟨later, Draft.field?_of_checkField failedLater, ?_⟩
          rcases Nat.lt_trichotomy field.rank later.rank with before | same | after
          · obtain ⟨unset, needed, isEmpty⟩ := unset_of_fails_alone failedCheck
              fun held isHeld => passedImage field held before isHeld
            exact Or.inr ⟨field, isEmpty, needed, unset, before⟩
          · obtain rfl := Field.rank_injective same
            exact Or.inl (Except.error.inj (failedCheck.symm.trans failedLater))
          · rw [passed later after] at failedLater
            cases failedLater

end CreateDraft

/-! ## Bodies -/

/-- A member of a body as an update writes it: an empty name becomes a null. -/
def Value.memberForUpdate : Text × Value → Text × Value
  | (key, .str []) => (key, if key = Field.displayName.path then .null else .str [])
  | member => member

/-- The body that an update has in the place of the body of a new configuration. -/
def Value.forUpdate : Value → Value
  | .object members => .object (members.map memberForUpdate)
  | value => value

theorem Leaf.forUpdate_of_deep (key next : Text) (more : List Text) (leaf : Leaf) :
    leaf.forUpdate (key :: next :: more) = leaf := by
  apply forUpdate_of_kept
  intro _ same
  cases same

theorem Leaf.memberForUpdate_toBody (key : Text) (leaf : Leaf) :
    Value.memberForUpdate (key, leaf.toBody) = (key, (leaf.forUpdate [key]).toBody) := by
  have path : Field.displayName.segments = [Field.displayName.path] := by decide
  cases leaf with
  | text value =>
      cases value with
      | cons first rest => rfl
      | nil =>
          rw [forUpdate, path]
          by_cases isName : key = Field.displayName.path
          · subst isName
            rfl
          · have other : [key] ≠ [Field.displayName.path] :=
              fun same => isName (List.cons.inj same).1
            rw [if_neg other]
            exact congrArg (Prod.mk key) (if_neg isName)
  | _ => rfl

theorem FieldMap.toBody_forUpdate (fields : FieldMap) :
    (fields.mapLeaves Leaf.forUpdate).toBody = fields.toBody.forUpdate := by
  apply congrArg Value.object
  induction fields with
  | empty => rfl
  | leaf key value rest ih =>
      rw [mapLeaves, members, members, List.map_cons, Leaf.memberForUpdate_toBody, ih]
  | group key children rest _ ih =>
      have sameChildren : (children.mapLeaves fun path => Leaf.forUpdate (key :: path)) = children :=
        mapLeaves_of_kept (Leaf.forUpdate_of_deep key)
      rw [mapLeaves, members, members, List.map_cons, sameChildren, ih]
      rfl

/-! ## Both drafts after the same calls -/

namespace Draft

/-- Drafts of both kinds agree after the same calls, whose setters succeed or fail alike.
Once every required field was set, both become requests with the same mask and the same
body, except that an empty name is a null in the update, or both fail with the same fault.
As long as a required field was not set, the draft of a new configuration fails, and where
the update fails for one of its fields, both report the same fault, or the other one
reports a required field before it that was not set. -/
theorem kinds_agree_after_calls {id : Text} (formed : ProviderId.WellFormed id)
    (calls : List (Field × Value)) :
    let start := AnyDraft.create { providerId := .str id }
    let accepted := AnyDraft.accepted (Setter.calls calls) start
    let wasSet := fun field : Field => ∃ argument, (Setter.field field, argument) ∈ accepted
    ∃ (creation : CreateDraft) (changes : UpdateDraft),
      AnyDraft.afterCalls (Setter.calls calls) start = .create creation ∧
      AnyDraft.afterCalls (Setter.calls calls) (.update {}) = .update changes ∧
      AnyDraft.accepted (Setter.calls calls) (.update {}) = accepted ∧
      ((∀ field : Field, field.isRequired = true → wasSet field) →
        (∃ fault, creation.build = .error fault ∧ changes.build = .error fault) ∨
        ∃ made changed, creation.build = .ok (made, id) ∧ changes.build = .ok changed ∧
          changed.mask = made.mask ∧ changed.toBody = made.toBody.forUpdate) ∧
      ∀ required : Field, required.isRequired = true → ¬wasSet required →
        ∃ fault, creation.build = .error fault ∧ ∀ other, changes.build = .error other →
          other ≠ .noFields "update" → ∃ field, other.field? = some field ∧
            (fault = other ∨ ∃ missing : Field, fault = .empty missing ∧
              missing.isRequired = true ∧ ¬wasSet missing ∧ missing.rank < field.rank) := by
  intro start accepted wasSet
  obtain ⟨creation, isLeft, imageIsLeft, sameId, sameCalls⟩ :=
    CreateDraft.asUpdate_afterCalls calls { providerId := .str id }
  have begun : (AnyDraft.create { providerId := .str id }).Records .create fun _ => none :=
    (AnyDraft.records_fresh .create).identify rfl
  have records := begun.afterCalls (Setter.calls calls)
  rw [isLeft] at records
  have unset_iff : ∀ field : Field, creation.fields.leaf? field.path = none ↔ ¬wasSet field := by
    intro field
    rw [not_exists]
    exact records.leaf?_eq_none_iff field
  refine ⟨creation, creation.asUpdate, isLeft, imageIsLeft, sameCalls, ?_, ?_⟩
  · intro complete
    have allSet : ∀ field : Field, field.isRequired = true →
        (creation.fields.leaf? field.path).isSome = true := by
      intro field required
      rw [Option.isSome_iff_ne_none]
      intro isUnset
      exact (unset_iff field).mp isUnset (complete field required)
    have inStep := CreateDraft.build_asUpdate sameId formed allSet
    cases built : creation.build with
    | error fault =>
        rw [built] at inStep
        exact Or.inl ⟨fault, rfl, inStep⟩
    | ok made =>
        obtain ⟨fields, ownId⟩ := made
        have isOwn : ownId = id := by
          obtain ⟨_, given, _⟩ := CreateDraft.build_eq_ok_iff.mp built
          rw [sameId] at given
          cases given
          rfl
        subst isOwn
        rw [built] at inStep
        exact Or.inr ⟨fields, _, rfl, inStep, FieldMap.mask_mapLeaves,
          FieldMap.toBody_forUpdate fields⟩
  · intro required needed notSet
    obtain ⟨fault, failed, compared⟩ :=
      CreateDraft.build_of_incomplete sameId formed needed ((unset_iff required).mpr notSet)
    refine ⟨fault, failed, ?_⟩
    intro other otherFailed notEmpty
    obtain ⟨field, about, same | ⟨missing, isEmpty, isNeeded, isUnset, before⟩⟩ :=
      compared other otherFailed notEmpty
    · exact ⟨field, about, Or.inl same⟩
    · exact ⟨field, about, Or.inr ⟨missing, isEmpty, isNeeded, (unset_iff missing).mp isUnset,
        before⟩⟩

/-- Calls that set every field that is needed, and the name to the empty text. -/
def partnerCalls : List (Field × Value) :=
  [(.displayName, .str []), (.idpEntityId, .str "idp"), (.ssoUrl, .str "urn:sso"),
   (.certificates, .list [.str "1"]), (.rpEntityId, .str "rp"), (.callbackUrl, .str "urn:back")]

def partner : CreateDraft where
  providerId := .str "saml.okta"
  fields :=
    .leaf "displayName" (.text [])
      (.group "idpConfig"
        (.leaf "idpEntityId" (.text "idp")
          (.leaf "ssoUrl" (.text "urn:sso") (.leaf "idpCertificates" (.certificates [⟨"1"⟩]) .empty)))
        (.group "spConfig"
          (.leaf "spEntityId" (.text "rp") (.leaf "callbackUri" (.text "urn:back") .empty)) .empty))

/-- Both drafts become requests after these calls, and the name that is empty in the one is
a null in the other. -/
theorem kinds_agree_on_partner :
    ∃ changes changed,
      AnyDraft.afterCalls (Setter.calls partnerCalls) (.update {}) = .update changes ∧
      partner.build = .ok (partner.fields, "saml.okta") ∧ changes.build = .ok changed ∧
      changed.toBody = partner.fields.toBody.forUpdate ∧
      partner.fields.toBody.at? ["displayName"] = some (.str []) ∧
      changed.toBody.at? ["displayName"] = some .null := by
  have formed : ProviderId.WellFormed "saml.okta" := ProviderId.isValid_iff.mp rfl
  have isFilled : AnyDraft.afterCalls (Setter.calls partnerCalls)
      (.create { providerId := .str "saml.okta" }) = .create partner := rfl
  have recorded : AnyDraft.accepted (Setter.calls partnerCalls)
      (.create { providerId := .str "saml.okta" }) = Setter.calls partnerCalls := rfl
  have built : partner.build = .ok (partner.fields, "saml.okta") := rfl
  obtain ⟨creation, changes, isLeft, imageIsLeft, _, agree, _⟩ :=
    kinds_agree_after_calls formed partnerCalls
  rw [isFilled] at isLeft
  cases isLeft
  rw [recorded] at agree
  have complete : ∀ field : Field, field.isRequired = true →
      ∃ argument, (Setter.field field, argument) ∈ Setter.calls partnerCalls := by
    intro field required
    cases field with
    | idpEntityId => exact ⟨.str "idp", by simp [Setter.calls, partnerCalls]⟩
    | ssoUrl => exact ⟨.str "urn:sso", by simp [Setter.calls, partnerCalls]⟩
    | certificates => exact ⟨.list [.str "1"], by simp [Setter.calls, partnerCalls]⟩
    | rpEntityId => exact ⟨.str "rp", by simp [Setter.calls, partnerCalls]⟩
    | callbackUrl => exact ⟨.str "urn:back", by simp [Setter.calls, partnerCalls]⟩
    | _ => cases required
  rcases agree complete with ⟨fault, failed, _⟩ | ⟨made, changed, own, changedBuilt, _, sameBody⟩
  · cases built.symm.trans failed
  · cases built.symm.trans own
    refine ⟨changes, changed, imageIsLeft, built, changedBuilt, sameBody, rfl, ?_⟩
    rw [sameBody]
    rfl

end Draft

end SamlAdmin
