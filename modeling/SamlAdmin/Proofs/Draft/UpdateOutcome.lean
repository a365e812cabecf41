import SamlAdmin.Proofs.Draft.Record

/-!
# What becomes of an update

A setter takes any leaf for any field, and whether the leaf is right for its field is found
out when the draft is turned into a request.  The outcome can be told from the calls alone:
it depends on whether any of them succeeded, and on the argument that was set last for each
field.  `Field.IsValid` says which arguments are right for a field, and `Field.Complaint`
what is said about the others.
-/

namespace SamlAdmin

namespace Field

/-- Whether an argument is valid for a field of an update. -/
def IsValid (argument : Value) : Field → Prop
  | .idpEntityId | .rpEntityId => ∃ text, argument = .str text ∧ text ≠ []
  | .ssoUrl | .callbackUrl => ∃ text, argument = .str text ∧ text ≠ [] ∧ Url.check text = .ok ()
  | .certificates => ∃ pems : List Text,
      (argument = .list (pems.map .str) ∨ argument = .tuple (pems.map .str)) ∧
      pems ≠ [] ∧ ∀ pem ∈ pems, pem ≠ []
  | .enabled | .requestSigning => ∃ flag, argument = .bool flag
  | .displayName => argument = .null ∨ ∃ text, argument = .str text

/-- Whether a field holds a text that must not be empty. -/
def IsTextual : Field → Prop
  | .idpEntityId | .ssoUrl | .rpEntityId | .callbackUrl => True
  | .certificates | .enabled | .requestSigning | .displayName => False

/-- The sentences about the arguments that are not valid for a field. -/
inductive Complaint : Field → Value → Text → Prop where
  | noText {field : Field} {argument : Value} (textual : field.IsTextual)
      (noText : ∀ text, argument = .str text → text = []) :
      Complaint field argument (field.label ++ (" must not be empty" : Text))
  | noUrl {field : Field} {text : Text} {refusal : Url.Refusal}
      (isUrl : field = .ssoUrl ∨ field = .callbackUrl) (nonempty : text ≠ [])
      (refused : Url.check text = .error refusal) :
      Complaint field (.str text)
        (("failed to parse " : Text) ++ field.label ++ (": " : Text) ++ refusal.message)
  | noCertificates {argument : Value} (none : argument = .list [] ∨ argument = .tuple []) :
      Complaint .certificates argument "x509_certificates must not be empty"
  | emptyCertificate {argument : Value} {pems : List Text}
      (given : argument = .list (pems.map .str) ∨ argument = .tuple (pems.map .str))
      (empty : [] ∈ pems) :
      Complaint .certificates argument "x509_certificates must not contain empty strings"
  | noFlag {field : Field} {argument : Value} (isFlag : field = .enabled ∨ field = .requestSigning)
      (noFlag : ∀ flag, argument ≠ .bool flag) :
      Complaint field argument (field.label ++ (" must be a boolean" : Text))
  | noName {argument : Value} (notCleared : argument ≠ .null)
      (noText : ∀ text, argument ≠ .str text) :
      Complaint .displayName argument "display_name must be a string"

theorem Complaint.not_isValid {field : Field} {argument : Value} {sentence : Text}
    (complaint : field.Complaint argument sentence) : ¬field.IsValid argument := by
  cases complaint with
  | noText textual noText =>
      cases field with
      | idpEntityId | rpEntityId =>
          intro valid
          obtain ⟨text, isText, nonempty⟩ := valid
          exact nonempty (noText text isText)
      | ssoUrl | callbackUrl =>
          intro valid
          obtain ⟨text, isText, nonempty, _⟩ := valid
          exact nonempty (noText text isText)
      | _ => exact textual.elim
  | noUrl isUrl nonempty refused =>
      rcases isUrl with rfl | rfl <;>
      · intro valid
        obtain ⟨text, same, _, accepted⟩ := valid
        cases same
        rw [refused] at accepted
        cases accepted
  | noCertificates none =>
      intro valid
      obtain ⟨pems, given, nonempty, _⟩ := valid
      apply nonempty
      rcases none with rfl | rfl <;> simpa using given
  | emptyCertificate given empty =>
      intro valid
      obtain ⟨pems, again, _, filled⟩ := valid
      rcases given with rfl | rfl <;>
      · simp only [Value.list.injEq, Value.tuple.injEq, reduceCtorEq, or_false, false_or] at again
        rw [(List.map_inj_right fun _ _ => Value.str.inj).mp again] at empty
        exact filled [] empty rfl
  | noFlag isFlag noFlag =>
      rcases isFlag with rfl | rfl <;>
      · intro valid
        obtain ⟨flag, same⟩ := valid
        exact noFlag flag same
  | noName notCleared noText =>
      intro valid
      rcases valid with same | ⟨text, same⟩
      · exact notCleared same
      · exact noText text same

end Field

namespace Draft

variable {kind : DraftKind} {field : Field} {argument : Value} {leaf : Leaf}

/-! ## One field -/

/-- Whether a check of a field comes out as the validity of an argument says. -/
structure Judges (field : Field) (argument : Value) (check : Except Fault Unit) : Prop where
  passes : check = .ok () ↔ field.IsValid argument
  complains : ∀ fault, check = .error fault → field.Complaint argument fault.message

theorem Judges.of_ok (valid : field.IsValid argument) : Judges field argument (.ok ()) where
  passes := iff_of_true rfl valid
  complains := nofun

theorem Judges.of_error {fault : Fault} (complaint : field.Complaint argument fault.message) :
    Judges field argument (.error fault) where
  passes := iff_of_false nofun complaint.not_isValid
  complains := by
    intro other same
    cases same
    exact complaint

theorem judges_checkText (isText : field = .idpEntityId ∨ field = .rpEntityId) (leaf : Leaf) :
    Judges field leaf.toValue (checkText field (some leaf)) := by
  have textual : field.IsTextual := by
    rcases isText with rfl | rfl <;> trivial
  cases leaf with
  | text value =>
      cases value with
      | nil =>
          apply Judges.of_error
          apply Field.Complaint.noText textual
          intro text same
          cases same
          rfl
      | cons first rest =>
          apply Judges.of_ok
          rcases isText with rfl | rfl <;> exact ⟨_, rfl, List.cons_ne_nil first rest⟩
  | _ =>
      apply Judges.of_error
      exact .noText textual nofun

theorem judges_checkUrl (isUrl : field = .ssoUrl ∨ field = .callbackUrl) (leaf : Leaf) :
    Judges field leaf.toValue (checkUrl field (some leaf)) := by
  have textual : field.IsTextual := by
    rcases isUrl with rfl | rfl <;> trivial
  cases leaf with
  | text value =>
      cases value with
      | nil =>
          apply Judges.of_error
          apply Field.Complaint.noText textual
          intro text same
          cases same
          rfl
      | cons first rest =>
          rw [checkUrl]
          cases checked : Url.check (first :: rest) with
          | ok accepted =>
              apply Judges.of_ok
              rcases isUrl with rfl | rfl <;> exact ⟨_, rfl, List.cons_ne_nil first rest, checked⟩
          | error refusal =>
              apply Judges.of_error
              exact .noUrl isUrl (List.cons_ne_nil first rest) checked
  | _ =>
      apply Judges.of_error
      exact .noText textual nofun

theorem judges_checkCertificates {certificates : List Certificate} {argument : Value}
    (given : argument = .list (certificates.map fun certificate => .str certificate.pem) ∨
      argument = .tuple (certificates.map fun certificate => .str certificate.pem)) :
    Judges .certificates argument
      (checkCertificates .certificates (some (.certificates certificates))) := by
  have listed : argument = .list ((certificates.map (·.pem)).map .str) ∨
      argument = .tuple ((certificates.map (·.pem)).map .str) := by
    rw [List.map_map]
    exact given
  cases certificates with
  | nil =>
      apply Judges.of_error
      exact .noCertificates given
  | cons first rest =>
      rw [checkCertificates]
      split
      case isTrue empty =>
          obtain ⟨certificate, member, isEmpty⟩ := List.any_eq_true.mp empty
          apply Judges.of_error
          apply Field.Complaint.emptyCertificate listed
          rw [← List.isEmpty_iff.mp isEmpty]
          exact List.mem_map_of_mem member
      case isFalse filled =>
          apply Judges.of_ok
          refine ⟨_, listed, by simp, ?_⟩
          intro pem member empty
          obtain ⟨certificate, isCertificate, rfl⟩ := List.mem_map.mp member
          apply filled
          rw [List.any_eq_true]
          exact ⟨certificate, isCertificate, List.isEmpty_iff.mpr empty⟩

theorem judges_checkFlag (isFlag : field = .enabled ∨ field = .requestSigning) (leaf : Leaf) :
    Judges field leaf.toValue (checkFlag field (some leaf)) := by
  cases leaf with
  | flag value =>
      apply Judges.of_ok
      rcases isFlag with rfl | rfl <;> exact ⟨value, rfl⟩
  | _ =>
      apply Judges.of_error
      exact .noFlag isFlag nofun

/-- The name is checked as it was stored, and an update stores the empty text as a null. -/
theorem judges_checkOptionalText
    (stored : kind.argumentFor .displayName argument = leaf.toValue) :
    Judges .displayName argument (checkOptionalText .displayName (some leaf)) := by
  by_cases cleared : argument = .str []
  · subst cleared
    have passed : checkOptionalText .displayName (some leaf) = .ok () := by
      cases kind <;> cases leaf <;> first | rfl | cases stored
    rw [passed]
    apply Judges.of_ok
    exact Or.inr ⟨[], rfl⟩
  · have same : kind.argumentFor .displayName argument = argument := by
      cases kind with
      | create => rfl
      | update => exact UpdateDraft.argumentFor_of_kept fun empty => absurd empty cleared
    rw [← same, stored]
    cases leaf with
    | text value =>
        apply Judges.of_ok
        exact Or.inr ⟨value, rfl⟩
    | cleared =>
        apply Judges.of_ok
        exact Or.inl rfl
    | _ =>
        apply Judges.of_error
        exact .noName nofun nofun

/-- A field whose setter was called is judged by the argument of the call. -/
theorem judges_checkField (isLeaf : kind.leafOf? field argument = some leaf) :
    Judges field argument (checkField field (some leaf)) := by
  by_cases isCertificates : field = .certificates
  · subst isCertificates
    obtain ⟨certificates, given, rfl⟩ := DraftKind.certificates_of_leafOf? isLeaf
    exact judges_checkCertificates given
  · rw [DraftKind.leafOf?_of_ne_certificates isCertificates] at isLeaf
    have stored := Leaf.eq_toValue_of_ofValue? isLeaf
    by_cases isName : field = .displayName
    · subst isName
      exact judges_checkOptionalText stored
    · rw [DraftKind.argumentFor_of_ne_displayName isName] at stored
      subst stored
      cases field with
      | idpEntityId => exact judges_checkText (Or.inl rfl) leaf
      | ssoUrl => exact judges_checkUrl (Or.inl rfl) leaf
      | rpEntityId => exact judges_checkText (Or.inr rfl) leaf
      | callbackUrl => exact judges_checkUrl (Or.inr rfl) leaf
      | enabled => exact judges_checkFlag (Or.inl rfl) leaf
      | requestSigning => exact judges_checkFlag (Or.inr rfl) leaf
      | certificates => exact absurd rfl isCertificates
      | displayName => exact absurd rfl isName

end Draft

theorem Field.Complaint.ne_noFields {field : Field} {argument : Value} {sentence : Text}
    (complaint : field.Complaint argument sentence) :
    sentence ≠ ("no parameters specified in the update request" : Text) := by
  cases complaint with
  | noText _ _ => cases field <;> decide
  | @noUrl _ _ refusal isUrl _ _ =>
      rcases isUrl with rfl | rfl <;> cases refusal <;> decide
  | noCertificates _ => decide
  | emptyCertificate _ _ => decide
  | noFlag isFlag _ => rcases isFlag with rfl | rfl <;> decide
  | noName _ _ => decide

/-! ## The draft as a whole -/

namespace UpdateDraft

variable {draft : UpdateDraft} {last : Field → Option Value}

theorem exists_fields_iff (records : (AnyDraft.update draft).Records .update last)
    (filled : draft.fields.isEmpty = false) :
    (∃ fields, draft.build = .ok fields) ↔
      ∀ field argument, last field = some argument → field.IsValid argument := by
  constructor
  · intro built
    obtain ⟨fields, built⟩ := built
    obtain ⟨_, _, passed⟩ := build_eq_ok_iff.mp built
    intro field argument given
    obtain ⟨leaf, isLeaf, found⟩ := records.given field argument given
    exact (Draft.judges_checkField isLeaf).passes.mp (passed field leaf found)
  · intro valid
    refine ⟨draft.fields, build_eq_ok_iff.mpr ⟨rfl, filled, ?_⟩⟩
    intro field leaf found
    obtain ⟨argument, given, isLeaf⟩ := records.given_of_leaf? found
    exact (Draft.judges_checkField isLeaf).passes.mpr (valid field argument given)

/-- The fault of a filled draft complains about the first argument that is not valid. -/
theorem complaint_of_build (records : (AnyDraft.update draft).Records .update last)
    (filled : draft.fields.isEmpty = false) {fault : Draft.Fault}
    (failed : draft.build = .error fault) :
    ∃ field argument, last field = some argument ∧ field.Complaint argument fault.message ∧
      ∀ earlier given, earlier.rank < field.rank → last earlier = some given →
        earlier.IsValid given := by
  obtain ⟨field, leaf, found, failedCheck, passed⟩ := (build_eq_error_iff filled).mp failed
  obtain ⟨argument, given, isLeaf⟩ := records.given_of_leaf? found
  refine ⟨field, argument, given, (Draft.judges_checkField isLeaf).complains fault failedCheck, ?_⟩
  intro earlier other before isGiven
  obtain ⟨held, isHeld, heldFound⟩ := records.given earlier other isGiven
  exact (Draft.judges_checkField isHeld).passes.mp (passed earlier held before heldFound)

theorem accepted_eq_nil_iff {calls : List (Setter × Value)} :
    AnyDraft.accepted calls (.update draft) = [] ↔
      ∀ field : Field, field.lastArgument none (AnyDraft.accepted calls (.update draft)) = none := by
  constructor
  · intro none field
    rw [none]
    rfl
  · intro nowhere
    cases taken : AnyDraft.accepted calls (.update draft) with
    | nil => rfl
    | cons call others =>
        have member : call ∈ AnyDraft.accepted calls (.update draft) := by
          rw [taken]
          exact List.mem_cons_self
        obtain ⟨field, own⟩ := exists_field_of_accepted call member
        have notCalled := (field.lastArgument_eq_none_iff _ _).mp (nowhere field)
        exact absurd own (notCalled.2 call member)

/-- The null in the body of an update stands for the name, and comes from an argument that
clears it. -/
theorem leafOf?_displayName_eq_cleared_iff {argument : Value} :
    DraftKind.update.leafOf? .displayName argument = some .cleared ↔
      argument = .null ∨ argument = .str [] := by
  rw [DraftKind.leafOf?_of_ne_certificates Field.noConfusion]
  constructor
  · intro isLeaf
    by_cases empty : argument = .str []
    · exact Or.inr empty
    · have same : argumentFor .displayName argument = argument :=
        argumentFor_of_kept fun isEmpty => absurd isEmpty empty
      have stored := Leaf.eq_toValue_of_ofValue? isLeaf
      exact Or.inl (same.symm.trans stored)
  · intro clears
    rcases clears with rfl | rfl <;> rfl

/-- A draft is told that it has no fields exactly if it has none. -/
theorem noFields_iff (records : (AnyDraft.update draft).Records .update last) :
    (∃ fault, draft.build = .error fault ∧
        fault.message = ("no parameters specified in the update request" : Text)) ↔
      draft.fields.isEmpty = true := by
  constructor
  · intro failed
    obtain ⟨fault, failed, sentence⟩ := failed
    cases empty : draft.fields.isEmpty with
    | true => rfl
    | false =>
        obtain ⟨_, _, _, complaint, _⟩ := complaint_of_build records empty failed
        exact absurd sentence complaint.ne_noFields
  · intro empty
    exact ⟨.noFields "update", build_of_isEmpty empty, rfl⟩

/-- There is a null in the body of an update exactly if the name was cleared last. -/
theorem holdsNull_iff (records : (AnyDraft.update draft).Records .update last)
    {fields : FieldMap} (built : draft.build = .ok fields) :
    fields.toBody.holdsNull = true ↔
      last .displayName = some .null ∨ last .displayName = some (.str []) := by
  rw [records.holdsNull_iff (.update built)]
  simp only [leafOf?_displayName_eq_cleared_iff]
  constructor
  · intro cleared
    obtain ⟨argument, given, rfl | rfl⟩ := cleared
    · exact Or.inl given
    · exact Or.inr given
  · intro cleared
    rcases cleared with given | given
    · exact ⟨_, given, Or.inl rfl⟩
    · exact ⟨_, given, Or.inr rfl⟩

/-- What becomes of an update after any calls.  It has no fields exactly if no call
succeeded.  Otherwise it becomes a request exactly if the argument that was set last is valid
for each field that was set, and the fault complains about the first field, in the order of
the checks, for which it is not.  A null in the body of the request stands for the name, and
it is there exactly if the name was cleared last. -/
theorem outcome_of_calls (calls : List (Setter × Value)) :
    let accepted := AnyDraft.accepted calls (.update {})
    let last := fun field : Field => field.lastArgument none accepted
    ∃ draft : UpdateDraft, AnyDraft.afterCalls calls (.update {}) = .update draft ∧
      ((∃ fault, draft.build = .error fault ∧
          fault.message = ("no parameters specified in the update request" : Text)) ↔
        accepted = []) ∧
      (accepted ≠ [] →
        ((∃ fields, draft.build = .ok fields) ↔
          ∀ field argument, last field = some argument → field.IsValid argument) ∧
        ∀ fault, draft.build = .error fault →
          ∃ field argument, last field = some argument ∧ ¬field.IsValid argument ∧
            field.Complaint argument fault.message ∧
            ∀ earlier given, earlier.rank < field.rank → last earlier = some given →
              earlier.IsValid given) ∧
      ∀ fields, draft.build = .ok fields →
        (fields.toBody.holdsNull = true ↔
          last .displayName = some .null ∨ last .displayName = some (.str [])) ∧
        ∀ path, fields.toBody.at? path = some .null → path = Field.displayName.segments := by
  intro accepted last
  obtain ⟨draft, isFilled, _⟩ := holds_fresh.afterCalls calls
  have records : (AnyDraft.update draft).Records .update last := by
    rw [← isFilled]
    exact (AnyDraft.records_fresh .update).afterCalls calls
  have isEmpty_iff : draft.fields.isEmpty = true ↔ accepted = [] :=
    records.isEmpty_iff.trans accepted_eq_nil_iff.symm
  refine ⟨draft, isFilled, (noFields_iff records).trans isEmpty_iff, ?_, ?_⟩
  · intro someAccepted
    have filled : draft.fields.isEmpty = false := by
      rw [Bool.eq_false_iff]
      intro empty
      exact someAccepted (isEmpty_iff.mp empty)
    refine ⟨exists_fields_iff records filled, ?_⟩
    intro fault failed
    obtain ⟨field, argument, given, complaint, passed⟩ := complaint_of_build records filled failed
    exact ⟨field, argument, given, complaint.not_isValid, complaint, passed⟩
  · intro fields built
    refine ⟨holdsNull_iff records built, ?_⟩
    intro path found
    exact records.eq_of_null (.update built) found

/-- Calls that set a text for a flag, an empty text for an address, and a number, which no
field takes. -/
def faultyCalls : List (Setter × Value) :=
  [(.field .enabled, .str "yes"), (.field .ssoUrl, .str []), (.field .idpEntityId, .int 1)]

/-- After these calls the fault complains about the address, although the flag was set
first. -/
theorem outcome_of_faulty_calls :
    ∃ draft fault, AnyDraft.afterCalls faultyCalls (.update {}) = .update draft ∧
      draft.build = .error fault ∧ Field.ssoUrl.Complaint (.str []) fault.message := by
  have recorded : AnyDraft.accepted faultyCalls (.update {}) = faultyCalls.dropLast := rfl
  obtain ⟨draft, isFilled, _, outcome, _⟩ := outcome_of_calls faultyCalls
  rw [recorded] at outcome
  obtain ⟨succeeds, complains⟩ := outcome (by simp [faultyCalls])
  have notValid : ¬Field.ssoUrl.IsValid (.str []) := by
    intro valid
    obtain ⟨text, same, nonempty, _⟩ := valid
    cases same
    exact nonempty rfl
  cases built : draft.build with
  | ok fields => exact absurd (succeeds.mp ⟨fields, built⟩ .ssoUrl (.str []) rfl) notValid
  | error fault =>
      obtain ⟨field, argument, given, _, complaint, passed⟩ := complains fault built
      refine ⟨draft, fault, isFilled, built, ?_⟩
      cases field with
      | ssoUrl =>
          cases given
          exact complaint
      | enabled => exact absurd (passed .ssoUrl (.str []) (by decide) rfl) notValid
      | _ => cases given

end UpdateDraft

end SamlAdmin
