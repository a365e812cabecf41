import SamlAdmin.Proofs.FieldMap.Walk

/-!
# What stands in the way of a write

A write of a leaf meets a conflict in one of two ways: a leaf stands at a shorter path with
which its path begins, or its path leads to a group.  In a proper map no group is empty, so
the second way too can be told by the leaves alone: one stands at a longer path that begins
with the path of the write.
-/

namespace SamlAdmin.FieldMap

variable {key : Text} {more : List Text} {value : Leaf} {fields : FieldMap}

/-! ## Conflicts of a write -/

theorem find?_nil (fields : FieldMap) : find? [] fields = none := by
  cases fields <;> rfl

theorem insert_eq_error_iff {conflict : Conflict} :
    insert value key more fields = .error conflict ↔
      Row.write value key more (fields.row? key) = .error conflict := by
  rw [insert_eq_map_write, map_eq_error_iff]

/-- Whether a leaf stands at a shorter path with which a path begins. -/
def LeafAbove (above path : List Text) (fields : FieldMap) : Prop :=
  (∃ next rest, path = above ++ next :: rest) ∧ (find? above fields).isSome = true

theorem leafAbove_cons_iff {above : List Text} :
    LeafAbove above (key :: more) fields ↔
      ∃ below, above = key :: below ∧ (∃ next rest, more = below ++ next :: rest) ∧
        ((fields.row? key).bind (Row.find? below)).isSome = true := by
  cases above with
  | nil => simp [LeafAbove, find?_nil]
  | cons first below =>
      rw [LeafAbove, find?_cons]
      constructor
      · rintro ⟨⟨next, rest, same⟩, found⟩
        obtain ⟨rfl, rfl⟩ := List.cons.inj same
        exact ⟨below, rfl, ⟨next, rest, rfl⟩, found⟩
      · rintro ⟨_, same, ⟨next, rest, rfl⟩, found⟩
        obtain ⟨rfl, rfl⟩ := List.cons.inj same
        exact ⟨⟨next, rest, rfl⟩, found⟩

/-- A write meets the leaf that stands above its path. -/
theorem insert_eq_underLeaf_iff {above : List Text} :
    insert value key more fields = .error (.underLeaf above) ↔
      LeafAbove above (key :: more) fields := by
  induction more generalizing key fields above with
  | nil =>
      rw [insert_eq_error_iff, leafAbove_cons_iff]
      cases fields.row? key with
      | none => simp [Row.write]
      | some row => cases row <;> simp [Row.write]
  | cons next more ih =>
      rw [insert_eq_error_iff, leafAbove_cons_iff]
      cases fields.row? key with
      | none => simp [Row.write]
      | some row =>
          cases row with
          | leaf held =>
              rw [Row.write, Except.error.injEq, Conflict.underLeaf.injEq]
              constructor
              · rintro rfl
                exact ⟨[], rfl, ⟨next, more, rfl⟩, rfl⟩
              · rintro ⟨below, rfl, _, found⟩
                cases below with
                | nil => rfl
                | cons first others => cases found
          | group children =>
              simp only [Row.write, mapError_eq_error_iff, Option.bind_some, Row.find?_group]
              constructor
              · rintro ⟨conflict, failed, within⟩
                rw [map_eq_error_iff] at failed
                cases conflict with
                | underLeaf inner =>
                    cases within
                    obtain ⟨shorter, found⟩ := ih.mp failed
                    exact ⟨inner, rfl, shorter, found⟩
                | overGroup => cases within
              · rintro ⟨below, rfl, shorter, found⟩
                exact ⟨.underLeaf below, map_eq_error_iff.mpr (ih.mpr ⟨shorter, found⟩), rfl⟩

/-- In a proper map a write meets a group where leaves stand below its path. -/
theorem Proper.insert_eq_overGroup_iff (proper : fields.Proper) :
    FieldMap.insert value key more fields = .error .overGroup ↔
      ∃ next rest, (find? (key :: (more ++ next :: rest)) fields).isSome = true := by
  induction more generalizing key fields with
  | nil =>
      simp only [insert_eq_error_iff, find?_cons, List.nil_append]
      cases isRow : fields.row? key with
      | none => simp [Row.write]
      | some row =>
          cases row with
          | leaf held => simp [Row.write, Row.find?]
          | group children =>
              -- the group is not empty, so some path leads on from here
              obtain ⟨_, path, leaf, found⟩ := proper.of_row isRow
              cases path with
              | nil => simp [find?_nil] at found
              | cons next rest =>
                  exact iff_of_true rfl ⟨next, rest, Option.isSome_iff_exists.mpr ⟨leaf, found⟩⟩
  | cons following more ih =>
      simp only [insert_eq_error_iff, find?_cons]
      cases isRow : fields.row? key with
      | none => simp [Row.write]
      | some row =>
          cases row with
          | leaf held => simp [Row.write, Row.find?]
          | group children =>
              have inside : FieldMap.insert value following more children = .error .overGroup ↔ _ :=
                ih (proper.of_row isRow).1
              rw [Row.write, mapError_eq_error_iff]
              constructor
              · rintro ⟨conflict, failed, within⟩
                rw [map_eq_error_iff] at failed
                cases conflict with
                | underLeaf inner => cases within
                | overGroup => exact inside.mp failed
              · intro found
                exact ⟨.overGroup, map_eq_error_iff.mpr (inside.mpr found), rfl⟩

/-! ## Conflicts between texts -/

/-- Whether a text is a shorter path with which a path begins. -/
def IsAbove (above path : Text) : Prop := ∃ rest, path = above ++ separator :: rest

theorem pathOf_append {front : List Text} (nonempty : front ≠ []) (next : Text)
    (rest : List Text) :
    pathOf (front ++ next :: rest) = pathOf front ++ separator :: pathOf (next :: rest) := by
  induction front with
  | nil => exact absurd rfl nonempty
  | cons first others ih =>
      cases others with
      | nil => exact pathOf_cons first (List.cons_ne_nil next rest)
      | cons second others =>
          have inner := ih (List.cons_ne_nil second others)
          rw [List.cons_append, pathOf_cons first (by simp), inner,
            pathOf_cons first (List.cons_ne_nil second others), List.append_assoc,
            List.cons_append]

theorem segments_ne_nil (path : Text) : segments path ≠ [] :=
  Text.splitOn_ne_nil separator path

theorem isAbove_iff {above path : Text} :
    IsAbove above path ↔ ∃ next rest, segments path = segments above ++ next :: rest := by
  constructor
  · rintro ⟨rest, rfl⟩
    obtain ⟨next, others, cut⟩ := List.exists_cons_of_ne_nil (segments_ne_nil rest)
    refine ⟨next, others, ?_⟩
    rw [segments, Text.splitOn_append_cons, ← segments, ← segments, cut]
  · rintro ⟨next, rest, cut⟩
    refine ⟨pathOf (next :: rest), ?_⟩
    have whole := pathOf_append (segments_ne_nil above) next rest
    rw [← cut] at whole
    calc path = pathOf (segments path) := (Text.join_splitOn separator path).symm
      _ = pathOf (segments above) ++ separator :: pathOf (next :: rest) := whole
      _ = above ++ separator :: pathOf (next :: rest) := by
          rw [pathOf, segments, Text.join_splitOn]

end SamlAdmin.FieldMap
