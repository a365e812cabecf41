import SamlAdmin.Proofs.FieldMap.Insert

/-!
# Changing all leaves

Two maps that were written in step have the same rows and differ in their leaves at most.
`FieldMap.mapLeaves` is the map with every leaf changed in view of its path.  A write of the
changed leaf to the changed map does what the write of the leaf does to the map: it fails in
the same way, and otherwise gives the changed result.
-/

namespace SamlAdmin.FieldMap

/-- The map with every leaf changed in view of its path. -/
def mapLeaves (change : List Text → Leaf → Leaf) : FieldMap → FieldMap
  | .empty => .empty
  | .leaf key value rest => .leaf key (change [key] value) (mapLeaves change rest)
  | .group key children rest =>
    .group key (mapLeaves (fun path => change (key :: path)) children) (mapLeaves change rest)

variable {change : List Text → Leaf → Leaf} {fields : FieldMap}

@[simp] theorem isEmpty_mapLeaves : (fields.mapLeaves change).isEmpty = fields.isEmpty := by
  cases fields <;> rfl

@[simp] theorem mask_mapLeaves : (fields.mapLeaves change).mask = fields.mask := by
  induction fields generalizing change with
  | empty => rfl
  | leaf key value rest ih => rw [mapLeaves, mask, ih, mask]
  | group key children rest childrenIh restIh => rw [mapLeaves, mask, childrenIh, restIh, mask]

theorem mapLeaves_of_kept (kept : ∀ key more leaf, change (key :: more) leaf = leaf) :
    fields.mapLeaves change = fields := by
  induction fields generalizing change with
  | empty => rfl
  | leaf key value rest ih => rw [mapLeaves, kept, ih kept]
  | group key children rest childrenIh restIh =>
      rw [mapLeaves, restIh kept]
      rw [childrenIh fun next more leaf => kept key (next :: more) leaf]

theorem find?_mapLeaves (path : List Text) :
    find? path (fields.mapLeaves change) = (find? path fields).map (change path) := by
  induction fields generalizing change path with
  | empty => cases path <;> rfl
  | leaf name value rest ih =>
      cases path with
      | nil => rfl
      | cons key more =>
          rw [mapLeaves, find?, find?, ih]
          by_cases same : name = key
          · subst same
            cases more <;> simp
          · simp [same]
  | group name children rest childrenIh restIh =>
      cases path with
      | nil => rfl
      | cons key more =>
          rw [mapLeaves, find?, find?, childrenIh, restIh]
          by_cases same : name = key
          · simp [same]
          · simp [same]

/-! ## Writes -/

theorem mapLeaves_single (value : Leaf) (key : Text) (more : List Text) :
    (single value key more).mapLeaves change = single (change (key :: more) value) key more := by
  induction more generalizing change key with
  | nil => rfl
  | cons next others ih => rw [single, mapLeaves, ih, single, mapLeaves]

theorem insert_mapLeaves (change : List Text → Leaf → Leaf) (value : Leaf) (key : Text)
    (more : List Text) :
    insert (change (key :: more) value) key more (fields.mapLeaves change) =
      (insert value key more fields).map (mapLeaves change) := by
  induction fields generalizing change key more with
  | empty =>
      rw [mapLeaves, insert, insert, ← mapLeaves_single]
      rfl
  | leaf name old rest ih =>
      rw [mapLeaves]
      by_cases same : name = key
      · subst same
        cases more with
        | nil =>
            rw [insert_leaf_same, insert_leaf_same]
            rfl
        | cons next others =>
            rw [insert_under_leaf, insert_under_leaf]
            rfl
      · rw [insert_after_leaf same, insert_after_leaf same, ih]
        cases insert value key more rest <;> rfl
  | group name children rest childrenIh restIh =>
      rw [mapLeaves]
      by_cases same : name = key
      · subst same
        cases more with
        | nil =>
            rw [insert_over_group, insert_over_group]
            rfl
        | cons next others =>
            rw [insert_into_group, insert_into_group, childrenIh fun path => change (name :: path)]
            cases insert value next others children <;> rfl
      · rw [insert_after_group same, insert_after_group same, restIh]
        cases insert value key more rest <;> rfl

theorem setLeaf_mapLeaves (path : Text) (value : Leaf) :
    setLeaf path (change (segments path) value) (fields.mapLeaves change) =
      (setLeaf path value fields).map (mapLeaves change) := by
  rw [setLeaf, setLeaf]
  cases segments path with
  | nil => rfl
  | cons key more =>
      simp only [insert_mapLeaves]
      cases insert value key more fields with
      | ok written => rfl
      | error conflict => cases conflict <;> rfl

theorem set_mapLeaves {path : Text} {value changed : Value}
    (isChanged : Leaf.ofValue? changed = (Leaf.ofValue? value).map (change (segments path)))
    (sameKind : changed.kind = value.kind ∨ (Leaf.ofValue? value).isSome = true) :
    set (.str path) changed (fields.mapLeaves change) =
      (set (.str path) value fields).map (mapLeaves change) := by
  rw [set, set, isChanged]
  cases (segments path).any List.isEmpty with
  | true => rfl
  | false =>
      cases isLeaf : Leaf.ofValue? value with
      | some leaf => exact setLeaf_mapLeaves path leaf
      | none =>
          rcases sameKind with same | isSome
          · rw [same]
            rfl
          · rw [isLeaf] at isSome
            cases isSome

end SamlAdmin.FieldMap
