import SamlAdmin.Proofs.Except
import SamlAdmin.FieldMap

/-!
# Writing one leaf

A write that succeeds changes the answer for its own path and for no other.  It keeps a
map proper: keys are segments, the rows of a group have different keys, and no group is
empty.
-/

namespace SamlAdmin.FieldMap

variable {key : Text} {more : List Text} {value : Leaf} {fields result : FieldMap}

/-! ## One row -/

theorem insert_leaf_same (value old : Leaf) (key : Text) (rest : FieldMap) :
    insert value key [] (.leaf key old rest) = .ok (.leaf key value rest) := by
  simp [insert]

theorem insert_under_leaf (value old : Leaf) (key next : Text) (more : List Text)
    (rest : FieldMap) :
    insert value key (next :: more) (.leaf key old rest) = .error (.underLeaf [key]) := by
  simp [insert]

theorem insert_over_group (value : Leaf) (key : Text) (children rest : FieldMap) :
    insert value key [] (.group key children rest) = .error .overGroup := by
  simp [insert]

theorem insert_into_group (value : Leaf) (key next : Text) (more : List Text)
    (children rest : FieldMap) :
    insert value key (next :: more) (.group key children rest) =
      ((insert value next more children).map fun after => .group key after rest).mapError
        (.within key) := by
  rw [insert.eq_def]
  simp only [if_pos]
  cases insert value next more children <;> rfl

theorem insert_after_leaf {name : Text} (other : name ≠ key) (value old : Leaf)
    (more : List Text) (rest : FieldMap) :
    insert value key more (.leaf name old rest) = (insert value key more rest).map (.leaf name old) := by
  rw [insert.eq_def]
  simp only [if_neg other]
  cases insert value key more rest <;> rfl

theorem insert_after_group {name : Text} (other : name ≠ key) (value : Leaf)
    (more : List Text) (children rest : FieldMap) :
    insert value key more (.group name children rest) =
      (insert value key more rest).map (.group name children) := by
  rw [insert.eq_def]
  simp only [if_neg other]
  cases insert value key more rest <;> rfl

/-- What a successful write at the path does to one row: the row takes the write, or the
write goes on to the rows after it. -/
theorem insert_leaf_eq_ok {name : Text} {old : Leaf} {rest : FieldMap}
    (written : insert value key more (.leaf name old rest) = .ok result) :
    (name = key ∧ more = [] ∧ result = .leaf name value rest) ∨
      (name ≠ key ∧ ∃ after, insert value key more rest = .ok after ∧
        result = .leaf name old after) := by
  by_cases same : name = key
  · subst same
    cases more with
    | nil =>
        rw [insert_leaf_same] at written
        cases written
        exact Or.inl ⟨rfl, rfl, rfl⟩
    | cons next others =>
        rw [insert_under_leaf] at written
        cases written
  · rw [insert_after_leaf same, map_eq_ok_iff] at written
    obtain ⟨after, inRest, rfl⟩ := written
    exact Or.inr ⟨same, after, inRest, rfl⟩

theorem insert_group_eq_ok {name : Text} {children rest : FieldMap}
    (written : insert value key more (.group name children rest) = .ok result) :
    (name = key ∧ ∃ next others after, more = next :: others ∧
        insert value next others children = .ok after ∧ result = .group name after rest) ∨
      (name ≠ key ∧ ∃ after, insert value key more rest = .ok after ∧
        result = .group name children after) := by
  by_cases same : name = key
  · subst same
    cases more with
    | nil =>
        rw [insert_over_group] at written
        cases written
    | cons next others =>
        rw [insert_into_group, mapError_eq_ok_iff, map_eq_ok_iff] at written
        obtain ⟨after, inside, rfl⟩ := written
        exact Or.inl ⟨rfl, next, others, after, rfl, inside, rfl⟩
  · rw [insert_after_group same, map_eq_ok_iff] at written
    obtain ⟨after, inRest, rfl⟩ := written
    exact Or.inr ⟨same, after, inRest, rfl⟩

/-! ## Reading after a write -/

theorem find?_single (value : Leaf) (key : Text) (more path : List Text) :
    find? path (single value key more) = if path = key :: more then some value else none := by
  induction more generalizing key path with
  | nil =>
      cases path with
      | nil => simp [single, find?]
      | cons first others =>
          by_cases same : key = first
          · subst same
            cases others with
            | nil => simp [single, find?]
            | cons next others => simp [single, find?]
          · simp [single, find?, same, Ne.symm same]
  | cons next more ih =>
      cases path with
      | nil => simp [single, find?]
      | cons first others =>
          by_cases same : key = first
          · subst same
            simp [single, find?, ih]
          · simp [single, find?, same, Ne.symm same]

/-- After a write its path has the new leaf, and every other path has what it had. -/
theorem find?_insert (written : insert value key more fields = .ok result) (path : List Text) :
    find? path result = if path = key :: more then some value else find? path fields := by
  induction fields generalizing key more result path with
  | empty =>
      cases written
      rw [find?_single]
      cases path <;> rfl
  | leaf name old rest ih =>
      rcases insert_leaf_eq_ok written with ⟨rfl, rfl, rfl⟩ | ⟨other, after, inRest, rfl⟩
      · cases path with
        | nil => simp [find?]
        | cons first others =>
            by_cases same : name = first
            · subst same
              cases others with
              | nil => simp [find?]
              | cons next others => simp [find?]
            · simp [find?, same, Ne.symm same]
      · cases path with
        | nil => simp [find?]
        | cons first others =>
            by_cases same : name = first
            · subst same
              simp [find?, other]
            · simp [find?, same, ih inRest]
  | group name children rest childrenIh restIh =>
      rcases insert_group_eq_ok written with
        ⟨rfl, next, others, after, rfl, inside, rfl⟩ | ⟨other, after, inRest, rfl⟩
      · cases path with
        | nil => simp [find?]
        | cons first others =>
            by_cases same : name = first
            · subst same
              simp [find?, childrenIh inside]
            · simp [find?, same, Ne.symm same]
      · cases path with
        | nil => simp [find?]
        | cons first others =>
            by_cases same : name = first
            · subst same
              simp [find?, other]
            · simp [find?, same, restIh inRest]

/-! ## Keys -/

/-- Whether all keys of a map, those inside groups among them, have a property. -/
def AllKeys (good : Text → Prop) : FieldMap → Prop
  | .empty => True
  | .leaf key _ rest => good key ∧ rest.AllKeys good
  | .group key children rest => good key ∧ children.AllKeys good ∧ rest.AllKeys good

section AllKeys

variable {good : Text → Prop}

theorem allKeys_single (value : Leaf) (goodPath : ∀ part ∈ key :: more, good part) :
    (single value key more).AllKeys good := by
  induction more generalizing key with
  | nil => exact ⟨goodPath key List.mem_cons_self, trivial⟩
  | cons next others ih =>
      rw [List.forall_mem_cons] at goodPath
      exact ⟨goodPath.1, ih goodPath.2, trivial⟩

theorem AllKeys.insert (allGood : fields.AllKeys good) (goodPath : ∀ part ∈ key :: more, good part)
    (written : FieldMap.insert value key more fields = .ok result) : result.AllKeys good := by
  induction fields generalizing key more result with
  | empty =>
      cases written
      exact allKeys_single value goodPath
  | leaf name old rest ih =>
      obtain ⟨nameGood, restGood⟩ := allGood
      rcases insert_leaf_eq_ok written with ⟨_, _, rfl⟩ | ⟨_, after, inRest, rfl⟩
      · exact ⟨nameGood, restGood⟩
      · exact ⟨nameGood, ih restGood goodPath inRest⟩
  | group name children rest childrenIh restIh =>
      obtain ⟨nameGood, childrenGood, restGood⟩ := allGood
      rcases insert_group_eq_ok written with
        ⟨_, next, others, after, rfl, inside, rfl⟩ | ⟨_, after, inRest, rfl⟩
      · have inner := (List.forall_mem_cons.mp goodPath).2
        exact ⟨nameGood, childrenIh childrenGood inner inside, restGood⟩
      · exact ⟨nameGood, childrenGood, restIh restGood goodPath inRest⟩

end AllKeys

/-! ## Proper maps -/

/-- What makes a text a segment of a path. -/
structure IsSegment (key : Text) : Prop where
  nonempty : key ≠ []
  noSeparator : separator ∉ key

def names : FieldMap → List Text
  | .empty => []
  | .leaf key _ rest => key :: names rest
  | .group key _ rest => key :: names rest

theorem map_fst_members (fields : FieldMap) : fields.members.map Prod.fst = fields.names := by
  induction fields with
  | empty => rfl
  | leaf key value rest ih => rw [members, List.map_cons, ih, names]
  | group key children rest _ ih => rw [members, List.map_cons, ih, names]

theorem size_eq_length_names (fields : FieldMap) : fields.size = fields.names.length := by
  induction fields with
  | empty => rfl
  | leaf key value rest ih => rw [size, ih, names, List.length_cons]
  | group key children rest _ ih => rw [size, ih, names, List.length_cons]

theorem isEmpty_iff_eq_empty : fields.isEmpty = true ↔ fields = .empty := by
  cases fields with
  | empty => exact iff_of_true rfl rfl
  | leaf key value rest => exact iff_of_false Bool.false_ne_true nofun
  | group key children rest => exact iff_of_false Bool.false_ne_true nofun

/-- Whether keys are segments, rows beside each other have different keys, and no group
is empty. -/
def Proper : FieldMap → Prop
  | .empty => True
  | .leaf key _ rest => IsSegment key ∧ key ∉ rest.names ∧ rest.Proper
  | .group key children rest =>
    IsSegment key ∧ key ∉ rest.names ∧ children ≠ .empty ∧ children.Proper ∧ rest.Proper

theorem Proper.nodup_names (proper : fields.Proper) : fields.names.Nodup := by
  induction fields with
  | empty => exact List.nodup_nil
  | leaf key value rest ih => exact List.nodup_cons.mpr ⟨proper.2.1, ih proper.2.2⟩
  | group key children rest _ ih =>
      exact List.nodup_cons.mpr ⟨proper.2.1, ih proper.2.2.2.2⟩

theorem single_ne_empty (value : Leaf) (key : Text) (more : List Text) :
    single value key more ≠ .empty := by
  cases more with
  | nil => exact fun same => nomatch same
  | cons next others => exact fun same => nomatch same

theorem proper_single (value : Leaf) (segments : ∀ part ∈ key :: more, IsSegment part) :
    (single value key more).Proper := by
  induction more generalizing key with
  | nil => exact ⟨segments key List.mem_cons_self, List.not_mem_nil, trivial⟩
  | cons next others ih =>
      rw [List.forall_mem_cons] at segments
      exact ⟨segments.1, List.not_mem_nil, single_ne_empty value next others, ih segments.2,
        trivial⟩

theorem names_single (value : Leaf) (key : Text) (more : List Text) :
    (single value key more).names = [key] := by
  cases more with
  | nil => rfl
  | cons next others => rfl

/-- A write brings at most one new row, which has the first key of its path. -/
theorem mem_names_insert (written : insert value key more fields = .ok result) {name : Text}
    (member : name ∈ result.names) : name = key ∨ name ∈ fields.names := by
  induction fields generalizing result with
  | empty =>
      cases written
      rw [names_single, List.mem_singleton] at member
      exact Or.inl member
  | leaf other old rest ih =>
      rcases insert_leaf_eq_ok written with ⟨_, _, rfl⟩ | ⟨_, after, inRest, rfl⟩
      · exact Or.inr member
      · rcases List.mem_cons.mp member with rfl | inAfter
        · exact Or.inr List.mem_cons_self
        · exact (ih inRest inAfter).imp_right (List.mem_cons_of_mem _)
  | group other children rest _ ih =>
      rcases insert_group_eq_ok written with ⟨_, _, _, _, _, _, rfl⟩ | ⟨_, after, inRest, rfl⟩
      · exact Or.inr member
      · rcases List.mem_cons.mp member with rfl | inAfter
        · exact Or.inr List.mem_cons_self
        · exact (ih inRest inAfter).imp_right (List.mem_cons_of_mem _)

theorem ne_empty_of_insert (written : insert value key more fields = .ok result) :
    result ≠ .empty := by
  cases fields with
  | empty =>
      cases written
      exact single_ne_empty value key more
  | leaf name old rest =>
      rcases insert_leaf_eq_ok written with ⟨_, _, rfl⟩ | ⟨_, _, _, rfl⟩
      · exact fun same => nomatch same
      · exact fun same => nomatch same
  | group name children rest =>
      rcases insert_group_eq_ok written with ⟨_, _, _, _, _, _, rfl⟩ | ⟨_, _, _, rfl⟩
      · exact fun same => nomatch same
      · exact fun same => nomatch same

/-- A write at a path of segments keeps a map proper. -/
theorem Proper.insert (proper : fields.Proper) (segments : ∀ part ∈ key :: more, IsSegment part)
    (written : insert value key more fields = .ok result) : result.Proper := by
  induction fields generalizing key more result with
  | empty =>
      cases written
      exact proper_single value segments
  | leaf name old rest ih =>
      obtain ⟨isSegment, fresh, restProper⟩ := proper
      rcases insert_leaf_eq_ok written with ⟨_, _, rfl⟩ | ⟨other, after, inRest, rfl⟩
      · exact ⟨isSegment, fresh, restProper⟩
      · refine ⟨isSegment, fun member => ?_, ih restProper segments inRest⟩
        rcases mem_names_insert inRest member with same | inOld
        · exact other same
        · exact fresh inOld
  | group name children rest childrenIh restIh =>
      obtain ⟨isSegment, fresh, filled, childrenProper, restProper⟩ := proper
      rcases insert_group_eq_ok written with
        ⟨_, next, others, after, rfl, inside, rfl⟩ | ⟨other, after, inRest, rfl⟩
      · have inner := (List.forall_mem_cons.mp segments).2
        exact ⟨isSegment, fresh, ne_empty_of_insert inside, childrenIh childrenProper inner inside,
          restProper⟩
      · refine ⟨isSegment, fun member => ?_, filled, childrenProper,
          restIh restProper segments inRest⟩
        rcases mem_names_insert inRest member with same | inOld
        · exact other same
        · exact fresh inOld

/-! ## Storing a value -/

/-- A value that was stored is a leaf, and was written at a path without empty segments. -/
theorem set_eq_ok {path : Text} {given : Value} {fields result : FieldMap}
    (written : fields.set (.str path) given = .ok result) :
    ∃ value key more, Leaf.ofValue? given = some value ∧ segments path = key :: more ∧
      (∀ part ∈ segments path, part ≠ []) ∧ insert value key more fields = .ok result := by
  rw [set] at written
  cases invalid : (segments path).any List.isEmpty with
  | true =>
      rw [invalid] at written
      cases written
  | false =>
      simp only [invalid, Bool.false_eq_true, if_false] at written
      cases kind : Leaf.ofValue? given with
      | none =>
          rw [kind] at written
          cases written
      | some value =>
          simp only [kind, setLeaf] at written
          cases cut : segments path with
          | nil =>
              rw [cut] at written
              cases written
          | cons key more =>
              simp only [cut] at written
              cases inserted : insert value key more fields with
              | error conflict =>
                  rw [inserted] at written
                  cases conflict <;> cases written
              | ok after =>
                  rw [inserted] at written
                  cases written
                  refine ⟨value, key, more, rfl, rfl, ?_, inserted⟩
                  rw [← cut]
                  simpa using invalid

end SamlAdmin.FieldMap
