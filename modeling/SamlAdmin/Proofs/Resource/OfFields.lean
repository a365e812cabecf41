import SamlAdmin.Proofs.Draft.Record
import SamlAdmin.Proofs.FieldMap.Rows
import SamlAdmin.Resource.Reading

/-!
# Reading the fields of a request as a resource

The paths of the fields and the names under which a resource is read are two tables.  A
map that holds nothing but fields agrees with the second one: each member of its body
stands under the wire name of a part of the resource, none stands under a plain name, and
no part is a group where a leaf is expected.  So such a body is read as a resource that
has in each place the leaf of the field for it, and a default in every other place.
-/

namespace SamlAdmin

/-! ## Leaves as parts of a resource -/

namespace Leaf

/-- The text that a leaf holds, and the empty text where there is none. -/
def textOf : Option Leaf → Text
  | some (.text value) => value
  | _ => []

/-- The flag that a leaf holds, not set where there is none. -/
def flagOf : Option Leaf → Bool
  | some (.flag value) => value
  | _ => false

/-- The certificates that a leaf holds, and none where there is no leaf. -/
def certificatesOf : Option Leaf → List Certificate
  | some (.certificates value) => value
  | _ => []

variable {leaf : Leaf}

theorem read_text (isText : ∃ value, leaf = .text value) :
    Reading.text leaf.toBody = .ok (textOf (some leaf)) := by
  obtain ⟨value, rfl⟩ := isText
  rfl

theorem read_flag (isFlag : ∃ value, leaf = .flag value) :
    Reading.flag leaf.toBody = .ok (flagOf (some leaf)) := by
  obtain ⟨value, rfl⟩ := isFlag
  rfl

theorem items_certificateBody (certificates : List Certificate) (position : Nat) :
    Reading.items Certificate.read position (certificates.map certificateBody) =
      .ok certificates := by
  induction certificates generalizing position with
  | nil => rfl
  | cons certificate rest ih =>
      rw [List.map_cons, Reading.items, ih]
      rfl

theorem read_certificates (isList : ∃ value, leaf = .certificates value) :
    Reading.list Certificate.read leaf.toBody = .ok (certificatesOf (some leaf)) := by
  obtain ⟨value, rfl⟩ := isList
  exact items_certificateBody value 0

end Leaf

/-! ## Maps that hold nothing but fields -/

namespace Field

def keys : Field → List Text
  | .idpEntityId => ["idpConfig", "idpEntityId"]
  | .ssoUrl => ["idpConfig", "ssoUrl"]
  | .certificates => ["idpConfig", "idpCertificates"]
  | .rpEntityId => ["spConfig", "spEntityId"]
  | .callbackUrl => ["spConfig", "callbackUri"]
  | .enabled => ["enabled"]
  | .requestSigning => ["idpConfig", "signRequest"]
  | .displayName => ["displayName"]

theorem segments_eq_keys (field : Field) : field.segments = field.keys := by
  cases field <;> decide

theorem eq_of_segments_prefix {field other : Field}
    (begins : field.segments <+: other.segments) : other = field := by
  have alone : ∀ field ∈ all, ∀ other ∈ all, field.keys <+: other.keys → other = field := by
    decide +kernel
  rw [segments_eq_keys, segments_eq_keys] at begins
  exact alone field field.mem_all other other.mem_all begins

/-- Paths of fields are made of wire names, which have no underscore. -/
theorem noUnderscore_of_mem_segments (field : Field) :
    ∀ key ∈ field.segments, (.char '_' : CodePoint) ∉ key := by
  rw [segments_eq_keys]
  cases field <;> decide

end Field

namespace FieldMap

/-- Whether every path in a map is, behind a stem, the path of a field, and leads to a leaf
of the kind that the field should hold. -/
def OnlyFields (stem : List Text) (fields : FieldMap) : Prop :=
  ∀ path leaf, fields.find? path = some leaf →
    ∃ field : Field, stem ++ path = field.segments ∧ field.Admits leaf

variable {stem : List Text} {fields : FieldMap}

theorem OnlyFields.row?_eq_none (only : fields.OnlyFields stem) (proper : fields.Proper)
    {key : Text} (apart : ∀ field : Field, key ∉ field.segments) :
    fields.row? key = none := by
  have absent : ∀ more, fields.find? (key :: more) = none := by
    intro more
    cases found : fields.find? (key :: more) with
    | none => rfl
    | some leaf =>
        obtain ⟨field, path, _⟩ := only _ leaf found
        refine absurd ?_ (apart field)
        rw [← path]
        exact List.mem_append_right stem List.mem_cons_self
  cases isRow : fields.row? key with
  | none => rfl
  | some row =>
      cases row with
      | leaf value =>
          have found := absent []
          rw [find?_cons, isRow] at found
          cases found
      | group children =>
          obtain ⟨_, path, leaf, inside⟩ := proper.of_row isRow
          have found := absent path
          rw [find?_cons, isRow] at found
          have nothing : children.find? path = none := by
            cases path with
            | nil => exact found
            | cons next others => exact found
          rw [nothing] at inside
          cases inside

theorem OnlyFields.of_row (only : fields.OnlyFields stem) {key : Text} {children : FieldMap}
    (isRow : fields.row? key = some (.group children)) : children.OnlyFields (stem ++ [key]) := by
  intro path leaf found
  have inside : fields.find? (key :: path) = some leaf := by
    rw [find?_cons, isRow]
    cases path with
    | nil => exact found
    | cons next others => exact found
  obtain ⟨field, isPath, admits⟩ := only _ leaf inside
  refine ⟨field, ?_, admits⟩
  rw [← isPath, List.append_assoc]
  rfl

theorem OnlyFields.effective_members (only : fields.OnlyFields stem) (proper : fields.Proper)
    (name : Reading.FieldName)
    (spelled : name.plain = name.wire ∨ (.char '_' : CodePoint) ∈ name.plain) :
    Reading.effective name fields.members =
      (fields.row? name.wire).map fun row => (name.wire, row.toBody) := by
  rw [Reading.effective, lookup_members]
  cases isRow : fields.row? name.wire with
  | some row => rfl
  | none =>
      have plain : fields.row? name.plain = none := by
        cases spelled with
        | inl same => rw [same, isRow]
        | inr underscore =>
            exact only.row?_eq_none proper fun field isKey =>
              field.noUnderscore_of_mem_segments name.plain isKey underscore
      simp only [Option.map_none, lookup_members, plain]

/-- A part of a resource is read from the leaf of the field for it. -/
theorem OnlyFields.read_leaf {α : Type} {read : Value → Reading α} {held : Option Leaf → α}
    (only : fields.OnlyFields stem) (proper : fields.Proper) (name : Reading.FieldName)
    (field : Field) (place : field.segments = stem ++ [name.wire])
    (spelled : name.plain = name.wire ∨ (.char '_' : CodePoint) ∈ name.plain)
    (reads : ∀ leaf, field.Admits leaf → read leaf.toBody = .ok (held (some leaf))) :
    Reading.field name read (held none) fields.members =
      .ok (held (fields.find? [name.wire])) := by
  rw [Reading.field, only.effective_members proper name spelled, find?_cons]
  cases isRow : fields.row? name.wire with
  | none => rfl
  | some row =>
      cases row with
      | leaf value =>
          have found : fields.find? [name.wire] = some value := by
            rw [find?_cons, isRow]
            rfl
          obtain ⟨other, isPath, admits⟩ := only _ value found
          obtain rfl := Field.segments_injective (place.trans isPath)
          simp only [Option.map_some, Row.toBody, reads value admits]
          rfl
      | group children =>
          -- a group would hold a path that is longer than that of the field
          obtain ⟨_, path, leaf, inside⟩ := proper.of_row isRow
          obtain ⟨other, isPath, _⟩ := only.of_row isRow path leaf inside
          rw [← place] at isPath
          obtain rfl := Field.eq_of_segments_prefix ⟨path, isPath⟩
          obtain rfl := List.self_eq_append_right.mp isPath.symm
          cases children <;> cases inside

/-- A part of a resource with parts of its own is read from the group of the fields in it,
or has all defaults. -/
theorem OnlyFields.read_group {α : Type} {read : Value → Reading α} {default result : α}
    (only : fields.OnlyFields stem) (proper : fields.Proper) (name : Reading.FieldName)
    (isGroup : ∀ field ∈ Field.all, stem ++ [name.wire] ≠ field.keys)
    (spelled : name.plain = name.wire ∨ (.char '_' : CodePoint) ∈ name.plain)
    (missing : (∀ key, fields.find? [name.wire, key] = none) → default = result)
    (reads : ∀ children : FieldMap, children.Proper →
      children.OnlyFields (stem ++ [name.wire]) →
      (∀ key, fields.find? [name.wire, key] = children.find? [key]) →
      read children.toBody = .ok result) :
    Reading.field name read default fields.members = .ok result := by
  rw [Reading.field, only.effective_members proper name spelled]
  cases isRow : fields.row? name.wire with
  | none =>
      have isDefault := missing fun key => by rw [find?_cons, isRow, Option.bind_none]
      rw [isDefault]
      rfl
  | some row =>
      cases row with
      | leaf value =>
          have found : fields.find? [name.wire] = some value := by
            rw [find?_cons, isRow]
            rfl
          obtain ⟨field, isPath, _⟩ := only _ value found
          rw [Field.segments_eq_keys] at isPath
          exact absurd isPath (isGroup field field.mem_all)
      | group children =>
          have isRead : read children.toBody = .ok result :=
            reads children (proper.of_row isRow).1 (only.of_row isRow) fun key => by
              rw [find?_cons, isRow]
              rfl
          simp only [Option.map_some, Row.toBody, isRead]
          rfl

/-! ## The resource -/

/-- The resource that the fields of a request stand for. -/
def resource (fields : FieldMap) : Resource where
  idp := {
    entityId := Leaf.textOf (fields.find? Field.idpEntityId.keys)
    ssoUrl := Leaf.textOf (fields.find? Field.ssoUrl.keys)
    certificates := Leaf.certificatesOf (fields.find? Field.certificates.keys)
    signRequest := Leaf.flagOf (fields.find? Field.requestSigning.keys) }
  sp := {
    entityId := Leaf.textOf (fields.find? Field.rpEntityId.keys)
    callbackUri := Leaf.textOf (fields.find? Field.callbackUrl.keys) }
  displayName := Leaf.textOf (fields.find? Field.displayName.keys)
  enabled := Leaf.flagOf (fields.find? Field.enabled.keys)

theorem OnlyFields.read_idpSection (only : fields.OnlyFields ["idpConfig"])
    (proper : fields.Proper) :
    IdpSection.read fields.toBody = .ok {
      entityId := Leaf.textOf (fields.find? ["idpEntityId"])
      ssoUrl := Leaf.textOf (fields.find? ["ssoUrl"])
      certificates := Leaf.certificatesOf (fields.find? ["idpCertificates"])
      signRequest := Leaf.flagOf (fields.find? ["signRequest"]) } := by
  have entityId := only.read_leaf proper ⟨"idpEntityId", "idp_entity_id"⟩ .idpEntityId
    (Field.segments_eq_keys _) (by decide) fun _ => Leaf.read_text
  have ssoUrl := only.read_leaf proper ⟨"ssoUrl", "sso_url"⟩ .ssoUrl
    (Field.segments_eq_keys _) (by decide) fun _ => Leaf.read_text
  have certificates := only.read_leaf proper ⟨"idpCertificates", "idp_certificates"⟩
    .certificates (Field.segments_eq_keys _) (by decide) fun _ => Leaf.read_certificates
  have signRequest := only.read_leaf proper ⟨"signRequest", "sign_request"⟩ .requestSigning
    (Field.segments_eq_keys _) (by decide) fun _ => Leaf.read_flag
  change ((Reading.field _ _ (Leaf.textOf none) _).both
    ((Reading.field _ _ (Leaf.textOf none) _).both
      ((Reading.field _ _ (Leaf.certificatesOf none) _).both
        (Reading.field _ _ (Leaf.flagOf none) _)))).map _ = _
  rw [entityId, ssoUrl, certificates, signRequest]
  rfl

theorem OnlyFields.read_spSection (only : fields.OnlyFields ["spConfig"])
    (proper : fields.Proper) :
    SpSection.read fields.toBody = .ok {
      entityId := Leaf.textOf (fields.find? ["spEntityId"])
      callbackUri := Leaf.textOf (fields.find? ["callbackUri"]) } := by
  have entityId := only.read_leaf proper ⟨"spEntityId", "sp_entity_id"⟩ .rpEntityId
    (Field.segments_eq_keys _) (by decide) fun _ => Leaf.read_text
  have callbackUri := only.read_leaf proper ⟨"callbackUri", "callback_uri"⟩ .callbackUrl
    (Field.segments_eq_keys _) (by decide) fun _ => Leaf.read_text
  change ((Reading.field _ _ (Leaf.textOf none) _).both
    (Reading.field _ _ (Leaf.textOf none) _)).map _ = _
  rw [entityId, callbackUri]
  rfl

/-- A map of fields is read as the resource that the fields stand for. -/
theorem OnlyFields.read_toBody (only : fields.OnlyFields []) (proper : fields.Proper) :
    Resource.read fields.toBody = .ok fields.resource := by
  have noName : fields.row? "name" = none := by
    apply only.row?_eq_none proper
    intro field
    rw [Field.segments_eq_keys]
    cases field <;> decide
  have name : Reading.field ⟨"name", "name"⟩ Reading.text [] fields.members = .ok [] := by
    rw [Reading.field, only.effective_members proper ⟨"name", "name"⟩ (Or.inl rfl), noName]
    rfl
  have idp : Reading.field ⟨"idpConfig", "idp_config"⟩ IdpSection.read {} fields.members =
      .ok fields.resource.idp := by
    apply only.read_group proper _ (by decide) (by decide)
    · intro absent
      simp only [resource, Field.keys, absent]
      rfl
    · intro children childrenProper childrenOnly found
      simp only [resource, Field.keys, found]
      exact childrenOnly.read_idpSection childrenProper
  have sp : Reading.field ⟨"spConfig", "sp_config"⟩ SpSection.read {} fields.members =
      .ok fields.resource.sp := by
    apply only.read_group proper _ (by decide) (by decide)
    · intro absent
      simp only [resource, Field.keys, absent]
      rfl
    · intro children childrenProper childrenOnly found
      simp only [resource, Field.keys, found]
      exact childrenOnly.read_spSection childrenProper
  have displayName := only.read_leaf proper ⟨"displayName", "display_name"⟩ .displayName
    (Field.segments_eq_keys _) (by decide) fun _ => Leaf.read_text
  have enabled := only.read_leaf proper ⟨"enabled", "enabled"⟩ .enabled
    (Field.segments_eq_keys _) (Or.inl rfl) fun _ => Leaf.read_flag
  change ((Reading.field _ _ [] _).both ((Reading.field _ _ _ _).both ((Reading.field _ _ _ _).both
    ((Reading.field _ _ (Leaf.textOf none) _).both
      (Reading.field _ _ (Leaf.flagOf none) _))))).map _ = _
  rw [name, idp, sp, displayName, enabled]
  rfl

end FieldMap

end SamlAdmin
