import SamlAdmin.Proofs.Draft.Build
import SamlAdmin.Proofs.Draft.History
import SamlAdmin.Proofs.FieldMap.Rows

/-!
# What a draft has on record

Drafts of both kinds are filled in the same way: a setter call that succeeds stores a leaf
at the path of its field.  So at every moment a draft of either kind has on record, for
each field whose setter succeeded, the leaf of the argument that was given last, and
nothing else.  Building the draft then checks each leaf on record against the kind that
its field admits.
-/

namespace SamlAdmin

/-- The leaf that a setter of a draft of a kind stores for its argument. -/
def DraftKind.leafOf? (kind : DraftKind) (field : Field) (argument : Value) : Option Leaf :=
  (Draft.stored field (kind.argumentFor field argument)).toOption.bind Leaf.ofValue?

/-! ## The leaf of an argument -/

theorem Draft.eq_map_of_certificatesOf {items : List Value} {certificates : List Certificate}
    (read : Draft.certificatesOf items = some certificates) :
    items = certificates.map fun certificate => .str certificate.pem := by
  induction items generalizing certificates with
  | nil =>
      cases read
      rfl
  | cons item items ih =>
      cases item with
      | str pem =>
          rw [certificatesOf, Option.map_eq_some_iff] at read
          obtain ⟨others, readOthers, rfl⟩ := read
          rw [List.map_cons, ← ih readOthers]
      | _ => cases read

namespace DraftKind

variable {kind : DraftKind} {field : Field} {argument : Value} {leaf : Leaf}

theorem argumentFor_of_ne_displayName (other : field ≠ .displayName) (argument : Value) :
    kind.argumentFor field argument = argument := by
  cases kind with
  | create => rfl
  | update => exact UpdateDraft.argumentFor_of_kept fun _ => other

theorem leafOf?_of_ne_certificates (other : field ≠ .certificates) (argument : Value) :
    kind.leafOf? field argument = Leaf.ofValue? (kind.argumentFor field argument) := by
  rw [leafOf?, Draft.stored_of_ne_certificates other]
  rfl

theorem certificates_of_leafOf? (isLeaf : kind.leafOf? .certificates argument = some leaf) :
    ∃ certificates : List Certificate,
      (argument = .list (certificates.map fun certificate => .str certificate.pem) ∨
        argument = .tuple (certificates.map fun certificate => .str certificate.pem)) ∧
      leaf = .certificates certificates := by
  rw [leafOf?, argumentFor_of_ne_displayName Field.noConfusion] at isLeaf
  cases stored : Draft.stored .certificates argument with
  | error refusal =>
      rw [stored] at isLeaf
      cases isLeaf
  | ok value =>
      obtain ⟨items, certificates, given, read, rfl⟩ := Draft.stored_certificates_eq_ok stored
      rw [stored, Except.toOption, Option.bind_some, Leaf.ofValue?, Leaf.certificates?_map] at isLeaf
      cases isLeaf
      rw [Draft.eq_map_of_certificatesOf read] at given
      exact ⟨certificates, given, rfl⟩

end DraftKind

namespace AnyDraft

variable {draft changed : AnyDraft} {field : Field} {argument : Value}

theorem of_apply_field (accepted : draft.apply (.field field) argument = .ok changed) :
    changed.kind = draft.kind ∧ ∃ leaf key more,
      draft.kind.leafOf? field argument = some leaf ∧ field.segments = key :: more ∧
      FieldMap.insert leaf key more draft.fields = .ok changed.fields := by
  obtain ⟨fields, written, rfl⟩ := setField_of_apply accepted
  obtain ⟨value, leaf, key, more, stored, isLeaf, cut, inserted⟩ := Draft.setField_eq_ok written
  rw [kind_withFields, fields_withFields]
  refine ⟨rfl, leaf, key, more, ?_, cut, inserted⟩
  rw [DraftKind.leafOf?, stored]
  exact isLeaf

/-- A draft has on record the leaf of the last argument for each field that has one, and
nothing else. -/
structure Records (kind : DraftKind) (last : Field → Option Value) (draft : AnyDraft) : Prop where
  ofKind : draft.kind = kind
  proper : draft.fields.Proper
  unicodeKeys : draft.HasUnicodeKeys
  given : ∀ field argument, last field = some argument → ∃ leaf,
    kind.leafOf? field argument = some leaf ∧ draft.fields.find? field.segments = some leaf
  notGiven : ∀ field, last field = none → draft.fields.find? field.segments = none
  onlyFields : ∀ path leaf, draft.fields.find? path = some leaf →
    ∃ field : Field, path = field.segments

theorem records_fresh (kind : DraftKind) : Records kind (fun _ => none) kind.fresh := by
  have empty : kind.fresh.fields = .empty := by
    cases kind with
    | create => rfl
    | update => rfl
  have nothing : ∀ path, FieldMap.find? path .empty = none := by
    intro path
    cases path with
    | nil => rfl
    | cons key more => rfl
  constructor
  · cases kind with
    | create => rfl
    | update => rfl
  · rw [empty]
    trivial
  · rw [HasUnicodeKeys, empty]
    trivial
  · intro field argument given
    cases given
  · intro field _
    rw [empty]
    exact nothing field.segments
  · intro path leaf found
    rw [empty, nothing path] at found
    cases found

variable {kind : DraftKind} {last : Field → Option Value}

theorem Records.identify (records : Records kind last draft)
    (accepted : draft.apply .providerId argument = .ok changed) : Records kind last changed := by
  obtain ⟨sameKind, sameFields⟩ := of_apply_providerId accepted
  constructor
  · exact sameKind.trans records.ofKind
  · rw [sameFields]
    exact records.proper
  · exact records.unicodeKeys.apply accepted
  · rw [sameFields]
    exact records.given
  · rw [sameFields]
    exact records.notGiven
  · rw [sameFields]
    exact records.onlyFields

theorem Records.write (records : Records kind last draft)
    (accepted : draft.apply (.field field) argument = .ok changed) :
    Records kind (fun other => if other = field then some argument else last other) changed := by
  obtain ⟨sameKind, leaf, key, more, isLeaf, cut, inserted⟩ := of_apply_field accepted
  rw [records.ofKind] at isLeaf
  have reads := FieldMap.find?_insert inserted
  rw [← cut] at reads
  have otherPath : ∀ {other : Field}, other ≠ field → other.segments ≠ field.segments :=
    fun own same => own (Field.segments_injective same)
  constructor
  · exact sameKind.trans records.ofKind
  · apply records.proper.insert _ inserted
    rw [← cut]
    exact field.isSegment_of_mem_segments
  · exact records.unicodeKeys.apply accepted
  · intro other given isGiven
    rw [reads]
    by_cases own : other = field
    · rw [if_pos own] at isGiven
      cases isGiven
      rw [own, if_pos rfl]
      exact ⟨leaf, isLeaf, rfl⟩
    · rw [if_neg own] at isGiven
      rw [if_neg (otherPath own)]
      exact records.given other given isGiven
  · intro other isNotGiven
    rw [reads]
    by_cases own : other = field
    · rw [if_pos own] at isNotGiven
      cases isNotGiven
    · rw [if_neg own] at isNotGiven
      rw [if_neg (otherPath own)]
      exact records.notGiven other isNotGiven
  · intro path found isFound
    rw [reads] at isFound
    by_cases own : path = field.segments
    · exact ⟨field, own⟩
    · rw [if_neg own] at isFound
      exact records.onlyFields path found isFound

/-- What is found for a field is the leaf of the argument that was given last. -/
theorem Records.given_of_leaf? (records : Records kind last draft) {leaf : Leaf}
    (found : draft.fields.leaf? field.path = some leaf) :
    ∃ argument, last field = some argument ∧ kind.leafOf? field argument = some leaf := by
  cases isGiven : last field with
  | none =>
      have nothing : draft.fields.leaf? field.path = none := records.notGiven field isGiven
      rw [nothing] at found
      cases found
  | some argument =>
      obtain ⟨held, isLeaf, isHeld⟩ := records.given field argument isGiven
      have same : draft.fields.leaf? field.path = some held := isHeld
      rw [same] at found
      cases found
      exact ⟨argument, rfl, isLeaf⟩

theorem Records.leaf?_eq_none_iff {calls : List (Setter × Value)}
    (records : Records kind (fun field => field.lastArgument none calls) draft) (field : Field) :
    draft.fields.leaf? field.path = none ↔ ∀ argument, (Setter.field field, argument) ∉ calls := by
  have notCalled_iff : field.lastArgument none calls = none ↔
      ∀ argument, (Setter.field field, argument) ∉ calls := by
    rw [Field.lastArgument_eq_none_iff]
    constructor
    · rintro ⟨_, other⟩ argument member
      exact other _ member rfl
    · intro notCalled
      refine ⟨rfl, ?_⟩
      rintro ⟨setter, argument⟩ member rfl
      exact notCalled argument member
  rw [← notCalled_iff]
  constructor
  · intro unset
    cases isGiven : field.lastArgument none calls with
    | none => rfl
    | some argument =>
        obtain ⟨leaf, _, found⟩ := records.given field argument isGiven
        have isHeld : draft.fields.leaf? field.path = some leaf := found
        rw [unset] at isHeld
        cases isHeld
  · intro isNotGiven
    exact records.notGiven field isNotGiven

theorem Records.isEmpty_iff (records : Records kind last draft) :
    draft.fields.isEmpty = true ↔ ∀ field, last field = none := by
  rw [FieldMap.isEmpty_iff_eq_empty]
  constructor
  · intro empty field
    cases isGiven : last field with
    | none => rfl
    | some argument =>
        obtain ⟨leaf, _, found⟩ := records.given field argument isGiven
        rw [empty] at found
        cases segments : field.segments <;> rw [segments] at found <;> cases found
  · intro noField
    apply Classical.byContradiction
    intro filled
    obtain ⟨path, isPath⟩ := List.exists_mem_of_ne_nil _ (records.proper.paths_ne_nil filled)
    obtain ⟨leaf, found⟩ := Option.isSome_iff_exists.mp (records.proper.mem_paths_iff.mp isPath)
    obtain ⟨field, rfl⟩ := records.onlyFields path leaf found
    rw [records.notGiven field (noField field)] at found
    cases found

/-- Whatever calls are made in turn, a draft has on record what the successful calls set
last. -/
theorem Records.afterCalls (records : Records kind last draft) (calls : List (Setter × Value)) :
    Records kind (fun field => field.lastArgument (last field) (accepted calls draft))
      (AnyDraft.afterCalls calls draft) :=
  afterCalls_induction (motive := Records kind) Records.identify Records.write calls records

end AnyDraft

/-! ## Leaves that were checked -/

/-- Whether a leaf is of the kind that a field should hold. -/
def Field.Admits (leaf : Leaf) : Field → Prop
  | .certificates => ∃ value, leaf = .certificates value
  | .enabled | .requestSigning => ∃ value, leaf = .flag value
  | .idpEntityId | .ssoUrl | .rpEntityId | .callbackUrl | .displayName =>
    ∃ value, leaf = .text value

namespace Draft

/-- A leaf that passes the check of its field, and does not clear it, is of the kind that
the field should hold. -/
theorem admits_of_checkField {field : Field} {leaf : Leaf}
    (checked : checkField field (some leaf) = .ok ()) (holds : leaf ≠ .cleared) :
    field.Admits leaf := by
  cases leaf with
  | cleared => exact absurd rfl holds
  | text value => cases field <;> first | exact ⟨value, rfl⟩ | cases checked
  | flag value => cases field <;> first | exact ⟨value, rfl⟩ | cases checked
  | certificates value => cases field <;> first | exact ⟨value, rfl⟩ | cases checked

end Draft

namespace AnyDraft

/-- Turning a draft into the fields of a request. -/
inductive Builds : AnyDraft → FieldMap → Prop where
  | create {draft : CreateDraft} {fields : FieldMap} {id : Text}
      (built : draft.build = .ok (fields, id)) : Builds (.create draft) fields
  | update {draft : UpdateDraft} {fields : FieldMap}
      (built : draft.build = .ok fields) : Builds (.update draft) fields

variable {draft : AnyDraft} {fields : FieldMap}

theorem Builds.eq_fields (builds : draft.Builds fields) : fields = draft.fields := by
  cases builds with
  | create built => exact (CreateDraft.eq_fields_of_build built).1
  | update built => exact (UpdateDraft.eq_fields_of_build built).1

theorem Builds.checked (builds : draft.Builds fields) {field : Field} {leaf : Leaf}
    (found : fields.leaf? field.path = some leaf) :
    Draft.checkField field (some leaf) = .ok () := by
  obtain rfl := builds.eq_fields
  cases builds with
  | create built =>
      obtain ⟨_, _, _, _, passed⟩ := CreateDraft.build_eq_ok_iff.mp built
      rw [← found]
      exact passed field
  | update built =>
      obtain ⟨_, _, passed⟩ := UpdateDraft.build_eq_ok_iff.mp built
      exact passed field leaf found

/-- In a body without a null, every field that is set is of the kind that it should be. -/
theorem Builds.admits (builds : draft.Builds fields)
    (noNull : fields.toBody.holdsNull = false) {field : Field} {leaf : Leaf}
    (found : fields.leaf? field.path = some leaf) : field.Admits leaf := by
  apply Draft.admits_of_checkField (builds.checked found)
  intro cleared
  subst cleared
  have null := Value.holdsNull_of_at? (FieldMap.at?_toBody found)
  exact absurd (noNull.symm.trans null) (by decide)

/-- The name is the only field that may be cleared. -/
theorem Builds.eq_displayName_of_cleared (builds : draft.Builds fields) {field : Field}
    (found : fields.leaf? field.path = some .cleared) : field = .displayName := by
  have passed := builds.checked found
  cases field with
  | displayName => rfl
  | _ => cases passed

section Nulls

variable {kind : DraftKind} {last : Field → Option Value}

/-- A null in the body of a request stands in the place of the name. -/
theorem Records.eq_of_null (records : Records kind last draft) (builds : draft.Builds fields)
    {path : List Text} (found : fields.toBody.at? path = some .null) :
    path = Field.displayName.segments := by
  obtain rfl := builds.eq_fields
  rcases FieldMap.leaf_or_group_of_at? found with ⟨leaf, isLeaf, null⟩ | ⟨children, isGroup⟩
  · have cleared := FieldMap.holdsNull_leaf_iff.mp (congrArg Value.holdsNull null.symm)
    subst cleared
    obtain ⟨field, rfl⟩ := records.onlyFields path _ isLeaf
    rw [builds.eq_displayName_of_cleared isLeaf]
  · cases isGroup

/-- There is a null in the body of a request exactly if the name was cleared last. -/
theorem Records.holdsNull_iff (records : Records kind last draft) (builds : draft.Builds fields) :
    fields.toBody.holdsNull = true ↔ ∃ argument, last .displayName = some argument ∧
      kind.leafOf? .displayName argument = some .cleared := by
  obtain rfl := builds.eq_fields
  rw [records.proper.holdsNull_toBody_iff]
  constructor
  · intro cleared
    obtain ⟨path, found⟩ := cleared
    obtain ⟨field, rfl⟩ := records.onlyFields path _ found
    rw [builds.eq_displayName_of_cleared found] at found
    exact records.given_of_leaf? found
  · intro cleared
    obtain ⟨argument, given, isLeaf⟩ := cleared
    obtain ⟨leaf, isHeld, found⟩ := records.given .displayName argument given
    rw [isLeaf] at isHeld
    cases isHeld
    exact ⟨_, found⟩

end Nulls

end AnyDraft

end SamlAdmin
