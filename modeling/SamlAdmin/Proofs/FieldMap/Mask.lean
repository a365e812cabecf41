import SamlAdmin.Proofs.FieldMap.Insert
import SamlAdmin.Proofs.Text.Split

/-!
# The mask of a map

The mask lists the leaves of a map by their dotted paths.  Apart from the dots it lists
paths of segments, and in a proper map these are exactly the paths under which something
is found, each of them once.
-/

namespace SamlAdmin.FieldMap

variable {fields : FieldMap} {path : List Text}

/-- The paths of all leaves as segments, in order. -/
def paths : FieldMap → List (List Text)
  | .empty => []
  | .leaf key _ rest => [key] :: paths rest
  | .group key children rest => (paths children).map (key :: ·) ++ paths rest

theorem head_of_mem_paths (member : path ∈ fields.paths) :
    ∃ key more, path = key :: more ∧ key ∈ fields.names := by
  induction fields with
  | empty => cases member
  | leaf key value rest ih =>
      rcases List.mem_cons.mp member with rfl | inRest
      · exact ⟨key, [], rfl, List.mem_cons_self⟩
      · obtain ⟨first, more, rfl, isName⟩ := ih inRest
        exact ⟨first, more, rfl, List.mem_cons_of_mem key isName⟩
  | group key children rest _ ih =>
      rcases List.mem_append.mp member with inGroup | inRest
      · obtain ⟨inner, _, rfl⟩ := List.mem_map.mp inGroup
        exact ⟨key, inner, rfl, List.mem_cons_self⟩
      · obtain ⟨first, more, rfl, isName⟩ := ih inRest
        exact ⟨first, more, rfl, List.mem_cons_of_mem key isName⟩

theorem pathOf_cons (key : Text) {more : List Text} (longer : more ≠ []) :
    pathOf (key :: more) = key ++ separator :: pathOf more := by
  cases more with
  | nil => exact absurd rfl longer
  | cons next others => simp [pathOf, Text.join]

theorem mask_eq_map_paths (fields : FieldMap) : fields.mask = fields.paths.map pathOf := by
  induction fields with
  | empty => rfl
  | leaf key value rest ih =>
      rw [mask, paths, List.map_cons, ih]
      rfl
  | group key children rest childrenIh restIh =>
      rw [mask, paths, List.map_append, childrenIh, restIh, List.map_map, List.map_map]
      congr 1
      apply List.map_congr_left
      intro inner member
      obtain ⟨first, more, rfl, _⟩ := head_of_mem_paths member
      exact (pathOf_cons key (by simp)).symm

/-- Every path names a field. -/
theorem nil_notMem_paths (fields : FieldMap) : [] ∉ fields.paths := by
  intro member
  obtain ⟨_, _, same, _⟩ := head_of_mem_paths member
  cases same

theorem find?_of_notMem_names {key : Text} (fresh : key ∉ fields.names) (more : List Text) :
    find? (key :: more) fields = none := by
  induction fields with
  | empty => rfl
  | leaf name value rest ih =>
      rw [names, List.mem_cons, not_or] at fresh
      rw [find?, if_neg (Ne.symm fresh.1), ih fresh.2]
  | group name children rest _ ih =>
      rw [names, List.mem_cons, not_or] at fresh
      rw [find?, if_neg (Ne.symm fresh.1), ih fresh.2]

theorem exists_head_of_find? {name : Text} (fresh : name ∉ fields.names) {leaf : Leaf}
    (found : find? path fields = some leaf) : ∃ key more, path = key :: more ∧ name ≠ key := by
  cases path with
  | nil => cases fields <;> cases found
  | cons key more =>
      refine ⟨key, more, rfl, ?_⟩
      intro same
      rw [← same, find?_of_notMem_names fresh] at found
      cases found

/-- The paths of a proper map are those under which a leaf is found. -/
theorem Proper.mem_paths_iff (proper : fields.Proper) :
    path ∈ fields.paths ↔ (find? path fields).isSome = true := by
  induction fields generalizing path with
  | empty => cases path <;> simp [paths, find?]
  | leaf key value rest ih =>
      obtain ⟨_, fresh, restProper⟩ := proper
      cases path with
      | nil =>
          simp [paths, find?, nil_notMem_paths rest]
      | cons first more =>
          by_cases same : key = first
          · subst same
            have notInRest : key :: more ∉ rest.paths := by
              rw [ih restProper, find?_of_notMem_names fresh]
              simp
            cases more with
            | nil => simp [paths, find?]
            | cons next others => simp [paths, find?, notInRest]
          · simp [paths, find?, same, Ne.symm same, ih restProper]
  | group key children rest childrenIh restIh =>
      obtain ⟨_, fresh, _, childrenProper, restProper⟩ := proper
      cases path with
      | nil =>
          simp [paths, find?, nil_notMem_paths rest]
      | cons first more =>
          by_cases same : key = first
          · subst same
            have notInRest : key :: more ∉ rest.paths := by
              rw [restIh restProper, find?_of_notMem_names fresh]
              simp
            simp [paths, find?, notInRest, childrenIh childrenProper]
          · simp [paths, find?, same, restIh restProper]

theorem Proper.nodup_paths (proper : fields.Proper) : fields.paths.Nodup := by
  induction fields with
  | empty => exact List.nodup_nil
  | leaf key value rest ih =>
      obtain ⟨_, fresh, restProper⟩ := proper
      refine List.nodup_cons.mpr ⟨fun member => ?_, ih restProper⟩
      rw [restProper.mem_paths_iff, find?_of_notMem_names fresh] at member
      cases member
  | group key children rest childrenIh restIh =>
      obtain ⟨_, fresh, _, childrenProper, restProper⟩ := proper
      refine List.nodup_append.mpr ⟨?_, restIh restProper, ?_⟩
      · refine List.Pairwise.map (key :: ·) ?_ (childrenIh childrenProper)
        intro left right different same
        exact different (List.cons.inj same).2
      · intro inGroup isInGroup inRest isInRest same
        obtain ⟨inner, _, rfl⟩ := List.mem_map.mp isInGroup
        subst same
        rw [restProper.mem_paths_iff, find?_of_notMem_names fresh] at isInRest
        cases isInRest

theorem Proper.isSegment_of_mem_paths (proper : fields.Proper) (member : path ∈ fields.paths) :
    ∀ part ∈ path, IsSegment part := by
  induction fields generalizing path with
  | empty => cases member
  | leaf key value rest ih =>
      obtain ⟨isSegment, _, restProper⟩ := proper
      rcases List.mem_cons.mp member with rfl | inRest
      · exact List.forall_mem_singleton.mpr isSegment
      · exact ih restProper inRest
  | group key children rest childrenIh restIh =>
      obtain ⟨isSegment, _, _, childrenProper, restProper⟩ := proper
      rcases List.mem_append.mp member with inGroup | inRest
      · obtain ⟨inner, isInner, rfl⟩ := List.mem_map.mp inGroup
        exact List.forall_mem_cons.mpr ⟨isSegment, childrenIh childrenProper isInner⟩
      · exact restIh restProper inRest

/-- Segments come back from the path that they make. -/
theorem segments_pathOf (nonempty : path ≠ []) (isPath : ∀ part ∈ path, IsSegment part) :
    segments (pathOf path) = path :=
  Text.splitOn_join nonempty fun part member => (isPath part member).noSeparator

theorem segments_injective {path other : Text} (same : segments other = segments path) :
    other = path := by
  rw [← Text.join_splitOn separator other, ← Text.join_splitOn separator path]
  exact congrArg (Text.join [separator]) same

theorem Proper.map_segments_mask (proper : fields.Proper) :
    fields.mask.map segments = fields.paths := by
  rw [mask_eq_map_paths, List.map_map]
  refine (List.map_congr_left ?_).trans (List.map_id' _)
  intro path member
  obtain ⟨key, more, rfl, _⟩ := head_of_mem_paths member
  exact segments_pathOf (by simp) (proper.isSegment_of_mem_paths member)

theorem Proper.nodup_mask (proper : fields.Proper) : fields.mask.Nodup := by
  have distinct := proper.nodup_paths
  rw [← proper.map_segments_mask] at distinct
  exact List.Pairwise.of_map segments
    (fun _ _ different same => different (congrArg segments same)) distinct

/-- The mask of a proper map lists the dotted paths under which a leaf is found. -/
theorem Proper.mem_mask_iff (proper : fields.Proper) {dotted : Text} :
    dotted ∈ fields.mask ↔ (fields.leaf? dotted).isSome = true := by
  rw [leaf?, ← proper.mem_paths_iff, mask_eq_map_paths]
  constructor
  · intro member
    obtain ⟨path, isPath, rfl⟩ := List.mem_map.mp member
    obtain ⟨key, more, rfl, _⟩ := head_of_mem_paths isPath
    rwa [segments_pathOf (by simp) (proper.isSegment_of_mem_paths isPath)]
  · intro member
    exact List.mem_map.mpr ⟨_, member, Text.join_splitOn separator dotted⟩

/-- A proper map that is not empty has a leaf somewhere. -/
theorem Proper.paths_ne_nil (proper : fields.Proper) (nonempty : fields ≠ .empty) :
    fields.paths ≠ [] := by
  induction fields with
  | empty => exact absurd rfl nonempty
  | leaf key value rest _ => exact List.cons_ne_nil _ _
  | group key children rest ih _ =>
      have inner := ih proper.2.2.2.1 proper.2.2.1
      rw [paths]
      exact List.append_ne_nil_of_left_ne_nil (by simpa using inner) _

end SamlAdmin.FieldMap
