import SamlAdmin.Proofs.FieldMap.Leaves

/-!
# The rows of a map

Looking up a path and looking up a member of the body both begin with the row of a key.
A leaf in that row ends the path, and a group goes on with the rest of it.  So the body of
a map can be read member by member, and what stands in a member is known from the paths
that are found.
-/

namespace SamlAdmin.FieldMap

/-- What stands in a row. -/
inductive Row where
  | leaf (value : Leaf)
  | group (children : FieldMap)

/-- A row as a member of a body. -/
def Row.toBody : Row → Value
  | .leaf value => value.toBody
  | .group children => children.toBody

/-- The leaf that a row has at the rest of a path. -/
def Row.find? : (more : List Text) → Row → Option Leaf
  | [], .leaf value => some value
  | _ :: _, .leaf _ => none
  | more, .group children => children.find? more

@[simp] theorem Row.find?_group (more : List Text) (children : FieldMap) :
    Row.find? more (.group children) = children.find? more := by
  cases more <;> rfl

/-- The row with a given key. -/
def row? (key : Text) : FieldMap → Option Row
  | .empty => none
  | .leaf name value rest => if name = key then some (.leaf value) else row? key rest
  | .group name children rest => if name = key then some (.group children) else row? key rest

theorem find?_cons (key : Text) (more : List Text) (fields : FieldMap) :
    find? (key :: more) fields = (fields.row? key).bind (Row.find? more) := by
  induction fields with
  | empty => rfl
  | leaf name value rest ih =>
      by_cases same : name = key
      · cases more with
        | nil => simp [find?, row?, same, Row.find?]
        | cons next others => simp [find?, row?, same, Row.find?]
      · rw [find?, row?, if_neg same, if_neg same, ih]
  | group name children rest _ ih =>
      by_cases same : name = key
      · rw [find?, row?, if_pos same, if_pos same]
        cases more with
        | nil => rfl
        | cons next others => rfl
      · rw [find?, row?, if_neg same, if_neg same, ih]

theorem lookup_members (key : Text) (fields : FieldMap) :
    Members.lookup key fields.members = (fields.row? key).map Row.toBody := by
  induction fields with
  | empty => rfl
  | leaf name value rest ih =>
      by_cases same : name = key
      · rw [members, Members.lookup, row?, if_pos same, if_pos same]
        rfl
      · rw [members, Members.lookup, row?, if_neg same, if_neg same, ih]
  | group name children rest _ ih =>
      by_cases same : name = key
      · rw [members, Members.lookup, row?, if_pos same, if_pos same]
        rfl
      · rw [members, Members.lookup, row?, if_neg same, if_neg same, ih]

theorem Proper.of_row {fields : FieldMap} (proper : fields.Proper) {key : Text}
    {children : FieldMap} (found : fields.row? key = some (.group children)) :
    children.Proper ∧ ∃ path leaf, children.find? path = some leaf := by
  induction fields with
  | empty => cases found
  | leaf name value rest ih =>
      by_cases same : name = key
      · rw [row?, if_pos same] at found
        cases found
      · rw [row?, if_neg same] at found
        exact ih proper.2.2 found
  | group name inner rest _ ih =>
      obtain ⟨_, _, filled, innerProper, restProper⟩ := proper
      by_cases same : name = key
      · rw [row?, if_pos same] at found
        cases found
        obtain ⟨path, isPath⟩ := List.exists_mem_of_ne_nil _ (innerProper.paths_ne_nil filled)
        obtain ⟨leaf, isLeaf⟩ := Option.isSome_iff_exists.mp (innerProper.mem_paths_iff.mp isPath)
        exact ⟨innerProper, path, leaf, isLeaf⟩
      · rw [row?, if_neg same] at found
        exact ih restProper found

/-- What stands at a path of a body is a leaf of the map or a group of it. -/
theorem leaf_or_group_of_at? {fields : FieldMap} {path : List Text} {value : Value}
    (found : fields.toBody.at? path = some value) :
    (∃ leaf, fields.find? path = some leaf ∧ value = leaf.toBody) ∨
      ∃ children : FieldMap, value = children.toBody := by
  induction path generalizing fields with
  | nil =>
      cases found
      exact Or.inr ⟨fields, rfl⟩
  | cons key more ih =>
      rw [toBody, Value.at?, lookup_members] at found
      cases isRow : fields.row? key with
      | none =>
          rw [isRow] at found
          cases found
      | some row =>
          rw [isRow, Option.map_some, Option.bind_some] at found
          cases row with
          | leaf held =>
              cases more with
              | nil =>
                  cases found
                  exact Or.inl ⟨held, by rw [find?_cons, isRow]; rfl, rfl⟩
              | cons next others => cases held <;> cases found
          | group children =>
              rcases ih found with ⟨leaf, inside, rfl⟩ | isGroup
              · refine Or.inl ⟨leaf, ?_, rfl⟩
                rw [find?_cons, isRow, ← inside]
                cases more <;> rfl
              · exact Or.inr isGroup

end SamlAdmin.FieldMap
