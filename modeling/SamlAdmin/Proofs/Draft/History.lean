import SamlAdmin.Proofs.Draft.Setting
import SamlAdmin.Proofs.FieldMap.Mask

/-!
# What setter calls leave in a draft

A draft for an update is filled by setter calls, and a call that fails changes nothing.
At every moment the draft holds, for each field whose setter succeeded, the value that
was set last, and nothing else.  `UpdateDraft.Holds` states this for one moment, and
every call keeps it.
-/

namespace SamlAdmin

/-! ## Calls and their record -/

namespace AnyDraft

/-- A draft after a setter call, which leaves it as it is where it fails. -/
def afterCall (draft : AnyDraft) (call : Setter × Value) : AnyDraft :=
  match draft.apply call.1 call.2 with
  | .ok changed => changed
  | .error _ => draft

def afterCalls (calls : List (Setter × Value)) (draft : AnyDraft) : AnyDraft :=
  calls.foldl afterCall draft

/-- The calls that succeed when they are made in turn. -/
def accepted : List (Setter × Value) → AnyDraft → List (Setter × Value)
  | [], _ => []
  | call :: calls, draft =>
    match draft.apply call.1 call.2 with
    | .ok changed => call :: accepted calls changed
    | .error _ => accepted calls draft

end AnyDraft

/-- A draft for an update takes no call but those of the setters of its fields. -/
theorem UpdateDraft.exists_field_of_accepted {draft : UpdateDraft} {calls : List (Setter × Value)} :
    ∀ call ∈ AnyDraft.accepted calls (.update draft), ∃ field, call.1 = .field field := by
  induction calls generalizing draft with
  | nil => exact List.forall_mem_nil _
  | cons call calls ih =>
      obtain ⟨setter, argument⟩ := call
      rw [AnyDraft.accepted]
      cases setter with
      | providerId => exact ih
      | field field =>
          cases made : (AnyDraft.update draft).apply (.field field) argument with
          | error fault => exact ih
          | ok changed =>
              rw [AnyDraft.apply, mapError_eq_ok_iff, map_eq_ok_iff] at made
              obtain ⟨next, _, rfl⟩ := made
              rw [List.forall_mem_cons]
              exact ⟨⟨field, rfl⟩, ih⟩

namespace Field

/-- The argument of the last call of a setter, or another one if there is no call. -/
def lastArgument (field : Field) (earlier : Option Value) (calls : List (Setter × Value)) :
    Option Value :=
  calls.foldl (fun last call => if call.1 = .field field then some call.2 else last) earlier

theorem lastArgument_cons (field other : Field) (earlier : Option Value) (argument : Value)
    (calls : List (Setter × Value)) :
    field.lastArgument earlier ((.field other, argument) :: calls) =
      field.lastArgument (if field = other then some argument else earlier) calls := by
  rw [lastArgument, List.foldl_cons]
  by_cases same : field = other
  · simp [lastArgument, same]
  · simp [lastArgument, same, Ne.symm same]

theorem lastArgument_eq_none_iff (field : Field) (earlier : Option Value)
    (calls : List (Setter × Value)) :
    field.lastArgument earlier calls = none ↔
      earlier = none ∧ ∀ call ∈ calls, call.1 ≠ .field field := by
  induction calls generalizing earlier with
  | nil => simp [lastArgument]
  | cons call calls ih =>
      rw [lastArgument, List.foldl_cons, ← lastArgument, ih, List.forall_mem_cons]
      by_cases own : call.1 = .field field
      · simp [own]
      · simp [own]

def segments (field : Field) : List Text := FieldMap.segments field.path

theorem find?_path (field : Field) : all.find? (fun other => other.path = field.path) = some field := by
  cases field <;> decide

theorem segments_injective {left right : Field} (same : left.segments = right.segments) :
    left = right := by
  have samePath : left.path = right.path := by
    rw [← Text.join_splitOn FieldMap.separator left.path,
      ← Text.join_splitOn FieldMap.separator right.path]
    exact congrArg (Text.join [FieldMap.separator]) same
  have found := find?_path left
  rw [samePath, find?_path right] at found
  exact (Option.some.inj found).symm

theorem isSegment_of_mem_segments (field : Field) :
    ∀ part ∈ field.segments, FieldMap.IsSegment part := by
  have checked : ∀ part ∈ field.segments, part ≠ [] ∧ FieldMap.separator ∉ part := by
    cases field <;> decide
  exact fun part member => ⟨(checked part member).1, (checked part member).2⟩

/-- How an item of a list stands in a body. -/
def itemImage : Value → Value
  | .str pem => .object [("x509Certificate", .str pem)]
  | .certificate certificate => .object [("x509Certificate", .str certificate.pem)]
  | item => item

/-- How an argument of the setter of a field stands in the body of an update: the empty
display name clears the name, and a tuple is as good as a list. -/
def image (field : Field) : Value → Value
  | .str [] => if field = .displayName then .null else .str []
  | .list items => .list (items.map itemImage)
  | .tuple items => .list (items.map itemImage)
  | argument => argument

end Field

namespace AnyDraft

/-- What setter calls in turn leave, given what each call that succeeds does to the draft
and to the record of the last arguments. -/
theorem afterCalls_induction {motive : (Field → Option Value) → AnyDraft → Prop}
    (identify : ∀ {last draft argument changed}, motive last draft →
      draft.apply .providerId argument = .ok changed → motive last changed)
    (write : ∀ {last draft field argument changed}, motive last draft →
      draft.apply (.field field) argument = .ok changed →
      motive (fun other => if other = field then some argument else last other) changed)
    (calls : List (Setter × Value)) {last : Field → Option Value} {draft : AnyDraft}
    (start : motive last draft) :
    motive (fun field => field.lastArgument (last field) (accepted calls draft))
      (afterCalls calls draft) := by
  induction calls generalizing last draft with
  | nil => exact start
  | cons call calls ih =>
      obtain ⟨setter, argument⟩ := call
      rw [afterCalls, List.foldl_cons, afterCall, accepted]
      cases made : draft.apply setter argument with
      | error fault => exact ih start
      | ok changed =>
          cases setter with
          | providerId => exact ih (identify start made)
          | field field =>
              simp only [Field.lastArgument_cons]
              exact ih (write start made)

end AnyDraft

/-! ## One call -/

namespace Draft

theorem itemImage_of_certificatesOf {items : List Value} {certificates : List Certificate}
    (read : certificatesOf items = some certificates) :
    items.map Field.itemImage = certificates.map Leaf.certificateBody := by
  induction items generalizing certificates with
  | nil =>
      cases read
      rfl
  | cons item items ih =>
      cases item with
      | str pem =>
          rw [certificatesOf, Option.map_eq_some_iff] at read
          obtain ⟨others, readOthers, rfl⟩ := read
          rw [List.map_cons, List.map_cons, ih readOthers]
          rfl
      | _ => cases read

theorem itemImage_of_certificates? {items : List Value} {certificates : List Certificate}
    (read : Leaf.certificates? items = some certificates) :
    items.map Field.itemImage = certificates.map Leaf.certificateBody := by
  induction items generalizing certificates with
  | nil =>
      cases read
      rfl
  | cons item items ih =>
      cases item with
      | certificate certificate =>
          rw [Leaf.certificates?, Option.map_eq_some_iff] at read
          obtain ⟨others, readOthers, rfl⟩ := read
          rw [List.map_cons, List.map_cons, ih readOthers]
          rfl
      | _ => cases read

theorem toBody_of_ofValue? {value : Value} {leaf : Leaf} (kind : Leaf.ofValue? value = some leaf)
    {field : Field} (kept : value = .str [] → field ≠ .displayName) :
    leaf.toBody = field.image value := by
  cases value with
  | null =>
      cases kind
      rfl
  | bool flag =>
      cases kind
      rfl
  | str text =>
      cases kind
      cases text with
      | nil => exact (if_neg (kept rfl)).symm
      | cons first rest => rfl
  | list items =>
      rw [Leaf.ofValue?, Option.map_eq_some_iff] at kind
      obtain ⟨certificates, read, rfl⟩ := kind
      rw [Field.image, itemImage_of_certificates? read]
      rfl
  | _ => cases kind

theorem stored_of_ne_certificates {field : Field} (other : field ≠ .certificates)
    (argument : Value) : stored field argument = .ok argument := by
  cases field with
  | certificates => exact absurd rfl other
  | _ => rfl

theorem stored_certificates_eq_ok {argument value : Value}
    (accepted : stored .certificates argument = .ok value) :
    ∃ items certificates, (argument = .list items ∨ argument = .tuple items) ∧
      certificatesOf items = some certificates ∧
      value = .list (certificates.map .certificate) := by
  cases argument with
  | list items =>
      cases read : certificatesOf items with
      | none =>
          simp only [stored, read] at accepted
          cases accepted
      | some certificates =>
          simp only [stored, read] at accepted
          cases accepted
          exact ⟨items, certificates, Or.inl rfl, read, rfl⟩
  | tuple items =>
      cases read : certificatesOf items with
      | none =>
          simp only [stored, read] at accepted
          cases accepted
      | some certificates =>
          simp only [stored, read] at accepted
          cases accepted
          exact ⟨items, certificates, Or.inr rfl, read, rfl⟩
  | _ => cases accepted

end Draft

namespace UpdateDraft

/-- Only the empty display name is taken for something else. -/
theorem argumentFor_of_kept {field : Field} {argument : Value}
    (kept : argument = .str [] → field ≠ .displayName) : argumentFor field argument = argument := by
  unfold argumentFor
  split
  · exact absurd rfl (kept rfl)
  · rfl

/-- What an update stores for an argument stands in its body as the image of the
argument. -/
theorem toBody_eq_image {field : Field} {argument value : Value} {leaf : Leaf}
    (accepted : Draft.stored field (argumentFor field argument) = .ok value)
    (kind : Leaf.ofValue? value = some leaf) : leaf.toBody = field.image argument := by
  by_cases isCertificates : field = .certificates
  · subst isCertificates
    obtain ⟨items, certificates, given, read, rfl⟩ := Draft.stored_certificates_eq_ok accepted
    have body : leaf.toBody = .list (certificates.map Leaf.certificateBody) := by
      rw [Leaf.ofValue?, Leaf.certificates?_map] at kind
      cases kind
      rfl
    have same : argumentFor .certificates argument = argument :=
      argumentFor_of_kept fun _ => Field.noConfusion
    rw [body, ← Draft.itemImage_of_certificatesOf read]
    rw [same] at given
    rcases given with rfl | rfl <;> rfl
  · rw [Draft.stored_of_ne_certificates isCertificates] at accepted
    cases accepted
    by_cases clears : field = .displayName ∧ argument = .str []
    · obtain ⟨rfl, rfl⟩ := clears
      cases kind
      rfl
    · have kept : argument = .str [] → field ≠ .displayName := fun empty isName =>
        clears ⟨isName, empty⟩
      rw [argumentFor_of_kept kept] at kind
      exact Draft.toBody_of_ofValue? kind kept

theorem set_eq_ok {draft changed : UpdateDraft} {field : Field} {argument : Value}
    (accepted : draft.set field argument = .ok changed) :
    ∃ leaf key more, leaf.toBody = field.image argument ∧ field.segments = key :: more ∧
      FieldMap.insert leaf key more draft.fields = .ok changed.fields := by
  rw [set, map_eq_ok_iff] at accepted
  obtain ⟨fields, written, rfl⟩ := accepted
  obtain ⟨value, leaf, key, more, stored, kind, cut, inserted⟩ := Draft.setField_eq_ok written
  exact ⟨leaf, key, more, toBody_eq_image stored kind, cut, inserted⟩

/-- The fields hold the image of the last argument for each field that has one, and
nothing else. -/
structure Holds (last : Field → Option Value) (fields : FieldMap) : Prop where
  proper : fields.Proper
  sound : ∀ path leaf, fields.find? path = some leaf →
    ∃ field argument, path = field.segments ∧ last field = some argument ∧
      leaf.toBody = field.image argument
  complete : ∀ field argument, last field = some argument →
    (fields.find? field.segments).isSome = true

theorem holds_fresh : Holds (fun _ => none) ({} : UpdateDraft).fields where
  proper := trivial
  sound := by
    intro path leaf found
    cases path <;> cases found
  complete := by
    intro field argument given
    cases given

theorem Holds.set {last : Field → Option Value} {draft changed : UpdateDraft}
    (holds : Holds last draft.fields) {field : Field} {argument : Value}
    (accepted : draft.set field argument = .ok changed) :
    Holds (fun other => if other = field then some argument else last other) changed.fields := by
  obtain ⟨leaf, key, more, body, cut, inserted⟩ := set_eq_ok accepted
  have reads := FieldMap.find?_insert inserted
  rw [← cut] at reads
  constructor
  · apply holds.proper.insert _ inserted
    rw [← cut]
    exact field.isSegment_of_mem_segments
  · intro path found isFound
    rw [reads] at isFound
    by_cases own : path = field.segments
    · rw [if_pos own] at isFound
      cases isFound
      exact ⟨field, argument, own, if_pos rfl, body⟩
    · rw [if_neg own] at isFound
      obtain ⟨other, earlier, isPath, given, otherBody⟩ := holds.sound path found isFound
      have different : other ≠ field := by
        rintro rfl
        exact own isPath
      exact ⟨other, earlier, isPath, by rw [if_neg different, given], otherBody⟩
  · intro other found given
    rw [reads]
    by_cases own : other = field
    · rw [own, if_pos rfl]
      rfl
    · rw [if_neg own] at given
      have otherPath : other.segments ≠ field.segments := fun same =>
        own (Field.segments_injective same)
      rw [if_neg otherPath]
      exact holds.complete other found given

/-- Whatever calls are made in turn, the draft stays one for an update and holds what
the successful calls set last. -/
theorem Holds.afterCalls {last : Field → Option Value} {draft : UpdateDraft}
    (holds : Holds last draft.fields) (calls : List (Setter × Value)) :
    ∃ filled : UpdateDraft, AnyDraft.afterCalls calls (.update draft) = .update filled ∧
      Holds (fun field => field.lastArgument (last field) (AnyDraft.accepted calls (.update draft)))
        filled.fields := by
  apply AnyDraft.afterCalls_induction
    (motive := fun last left => ∃ filled, left = .update filled ∧ Holds last filled.fields)
  · rintro last _ argument changed ⟨filled, rfl, _⟩ made
    cases made
  · rintro last _ field argument changed ⟨filled, rfl, filledHolds⟩ made
    rw [AnyDraft.apply, mapError_eq_ok_iff, map_eq_ok_iff] at made
    obtain ⟨next, set, rfl⟩ := made
    exact ⟨next, rfl, filledHolds.set set⟩
  · exact ⟨draft, rfl, holds⟩

end UpdateDraft

end SamlAdmin
