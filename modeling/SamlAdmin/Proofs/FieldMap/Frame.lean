import SamlAdmin.Proofs.FieldMap.Mask

/-!
# What a write leaves alone

A write that succeeds changes what is found at its own path, and every other text, well
formed or not, is answered as before.  In the mask it leaves the order of what was there: a
path that is written again keeps its place, and a new one is put in at one place.
-/

namespace SamlAdmin.FieldMap

variable {key : Text} {more : List Text} {value : Leaf} {fields result : FieldMap}

/-! ## The mask after a write -/

theorem mask_single (value : Leaf) (key : Text) (more : List Text) :
    (single value key more).mask = [pathOf (key :: more)] := by
  induction more generalizing key with
  | nil => rfl
  | cons next others ih =>
      have longer : next :: others ≠ [] := List.cons_ne_nil next others
      simp [single, mask, ih, pathOf_cons key longer]

/-- A leaf that is written again keeps its place. -/
theorem mask_insert_of_isSome (written : insert value key more fields = .ok result)
    (present : (find? (key :: more) fields).isSome = true) : result.mask = fields.mask := by
  induction fields generalizing key more result with
  | empty => cases present
  | leaf name old rest ih =>
      rcases insert_leaf_eq_ok written with ⟨_, _, rfl⟩ | ⟨other, after, inRest, rfl⟩
      · rfl
      · rw [find?, if_neg other] at present
        rw [mask, mask, ih inRest present]
  | group name children rest childrenIh restIh =>
      rcases insert_group_eq_ok written with
        ⟨rfl, next, others, after, rfl, inside, rfl⟩ | ⟨other, after, inRest, rfl⟩
      · rw [find?, if_pos rfl] at present
        rw [mask, mask, childrenIh inside present]
      · rw [find?, if_neg other] at present
        rw [mask, mask, restIh inRest present]

/-- A list with one more item at some place. -/
def InsertedInto {α : Type} (item : α) (before after : List α) : Prop :=
  ∃ left right, before = left ++ right ∧ after = left ++ item :: right

theorem InsertedInto.append_left {α : Type} {item : α} {before after : List α}
    (inserted : InsertedInto item before after) (front : List α) :
    InsertedInto item (front ++ before) (front ++ after) := by
  obtain ⟨left, right, rfl, rfl⟩ := inserted
  exact ⟨front ++ left, right, by simp, by simp⟩

theorem InsertedInto.append_right {α : Type} {item : α} {before after : List α}
    (inserted : InsertedInto item before after) (back : List α) :
    InsertedInto item (before ++ back) (after ++ back) := by
  obtain ⟨left, right, rfl, rfl⟩ := inserted
  exact ⟨left, right ++ back, by simp, by simp⟩

theorem InsertedInto.map {α β : Type} {item : α} {before after : List α}
    (inserted : InsertedInto item before after) (change : α → β) :
    InsertedInto (change item) (before.map change) (after.map change) := by
  obtain ⟨left, right, rfl, rfl⟩ := inserted
  exact ⟨left.map change, right.map change, by simp, by simp⟩

/-- A new leaf is put in at one place. -/
theorem mask_insert_of_isNone (written : insert value key more fields = .ok result)
    (absent : find? (key :: more) fields = none) :
    InsertedInto (pathOf (key :: more)) fields.mask result.mask := by
  induction fields generalizing key more result with
  | empty =>
      cases written
      rw [mask_single]
      exact ⟨[], [], rfl, rfl⟩
  | leaf name old rest ih =>
      rcases insert_leaf_eq_ok written with ⟨rfl, rfl, rfl⟩ | ⟨other, after, inRest, rfl⟩
      · simp [find?] at absent
      · rw [find?, if_neg other] at absent
        exact (ih inRest absent).append_left [name]
  | group name children rest childrenIh restIh =>
      rcases insert_group_eq_ok written with
        ⟨rfl, next, others, after, rfl, inside, rfl⟩ | ⟨other, after, inRest, rfl⟩
      · rw [find?, if_pos rfl] at absent
        rw [pathOf_cons name (List.cons_ne_nil next others)]
        exact ((childrenIh inside absent).map (name ++ separator :: ·)).append_right rest.mask
      · rw [find?, if_neg other] at absent
        exact (restIh inRest absent).append_left (children.mask.map (name ++ separator :: ·))

/-! ## Answers after a write -/

theorem get_str (path : Text) (otherwise : Value) (fields : FieldMap) :
    fields.get (.str path) otherwise = .ok ((fields.leaf? path).elim otherwise Leaf.toValue) := by
  simp only [get, Value.toSplittable, leaf?]
  cases fields.find? (segments path) with
  | none => rfl
  | some leaf => rfl

/-- A value that was stored is found as a leaf at its path, and at no other path is anything
else found than before. -/
theorem leaf?_of_set {path : Text} {given : Value}
    (written : fields.set (.str path) given = .ok result) :
    (∃ leaf, given = leaf.toValue ∧ result.leaf? path = some leaf) ∧
      ∀ other, other ≠ path → result.leaf? other = fields.leaf? other := by
  obtain ⟨leaf, key, more, isLeaf, cut, _, inserted⟩ := set_eq_ok written
  refine ⟨⟨leaf, Leaf.eq_toValue_of_ofValue? isLeaf, ?_⟩, ?_⟩
  · rw [leaf?, find?_insert inserted, if_pos cut]
  · intro other different
    have elsewhere : segments other ≠ key :: more := by
      rw [← cut]
      exact fun same => different (segments_injective same)
    rw [leaf?, find?_insert inserted, if_neg elsewhere, leaf?]

theorem exists_text_of_set {path given : Value} (written : fields.set path given = .ok result) :
    ∃ dotted, path = .str dotted := by
  cases path with
  | str dotted => exact ⟨dotted, rfl⟩
  | _ => cases written

/-- A write that succeeds changes exactly one path.  Its value is found there afterwards,
whatever is asked for in its absence; every other text is answered as it was before.  The
mask is the same if something stood at the path, and otherwise has the path in it at one
place. -/
theorem set_changes_one_path {path given : Value} (written : fields.set path given = .ok result) :
    ∃ dotted, path = .str dotted ∧
      result.contains path = true ∧ (∀ otherwise, result.get path otherwise = .ok given) ∧
      (∀ other, other ≠ dotted → result.contains (.str other) = fields.contains (.str other) ∧
        ∀ otherwise, result.get (.str other) otherwise = fields.get (.str other) otherwise) ∧
      (fields.contains path = true → result.mask = fields.mask) ∧
      (fields.contains path = false → InsertedInto dotted fields.mask result.mask) := by
  obtain ⟨dotted, rfl⟩ := exists_text_of_set written
  obtain ⟨⟨leaf, rfl, found⟩, elsewhere⟩ := leaf?_of_set written
  obtain ⟨_, key, more, _, cut, _, inserted⟩ := set_eq_ok written
  refine ⟨dotted, rfl, ?_, ?_, ?_, ?_, ?_⟩
  · rw [contains, found]
    rfl
  · intro otherwise
    rw [get_str, found]
    rfl
  · intro other different
    have same := elsewhere other different
    refine ⟨congrArg Option.isSome same, fun otherwise => ?_⟩
    rw [get_str, get_str, same]
  · intro present
    rw [contains, leaf?, cut] at present
    exact mask_insert_of_isSome inserted present
  · intro absent
    rw [contains, leaf?, cut, Option.isSome_eq_false_iff, Option.isNone_iff_eq_none] at absent
    have whole : pathOf (key :: more) = dotted := by
      rw [← cut]
      exact Text.join_splitOn separator dotted
    rw [← whole]
    exact mask_insert_of_isNone inserted absent

/-- A field is cleared in a group that has another one, and a text that ends with a dot is
answered as before. -/
theorem set_clears_one_field :
    let fields : FieldMap := .group "idpConfig" (.leaf "ssoUrl" (.text "u") .empty)
      (.leaf "enabled" (.flag true) .empty)
    ∃ result, fields.set (.str "idpConfig.signRequest") .null = .ok result ∧
      result.get (.str "idpConfig.signRequest") (.bool true) = .ok .null ∧
      result.get (.str "idpConfig.") .null = fields.get (.str "idpConfig.") .null ∧
      InsertedInto ("idpConfig.signRequest" : Text) fields.mask result.mask := by
  intro fields
  have stored : ∃ result, fields.set (.str "idpConfig.signRequest") .null = .ok result :=
    ⟨_, rfl⟩
  obtain ⟨result, written⟩ := stored
  obtain ⟨dotted, same, _, found, elsewhere, _, inserted⟩ := set_changes_one_path written
  cases same
  exact ⟨result, written, found _, (elsewhere _ (by decide)).2 _, inserted (by decide)⟩

end SamlAdmin.FieldMap
