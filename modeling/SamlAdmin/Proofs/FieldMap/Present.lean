import Mathlib.Data.List.Dedup
import SamlAdmin.Proofs.FieldMap.Store

/-!
# What the mask tells about a map

The mask of a map that was filled by writes is a list of the paths at which something is
stored, each of them once.  No path in it is above another one, since a leaf has nothing
below it.  The rows of the map can be counted from the mask alone: no group is empty, so
every row has a path in the mask that begins with its key.
-/

namespace SamlAdmin.FieldMap

variable {fields : FieldMap}

/-! ## Nothing below a leaf -/

/-- A leaf ends every path that leads to it. -/
theorem find?_below_leaf {front : List Text} (found : (find? front fields).isSome = true)
    (next : Text) (rest : List Text) : find? (front ++ next :: rest) fields = none := by
  induction front generalizing fields with
  | nil =>
      rw [find?_nil] at found
      cases found
  | cons key more ih =>
      rw [find?_cons] at found
      rw [List.cons_append, find?_cons]
      cases isRow : fields.row? key with
      | none => rfl
      | some row =>
          rw [isRow, Option.bind_some] at found
          cases row with
          | leaf value =>
              cases more with
              | nil => rfl
              | cons second others => cases found
          | group children =>
              rw [Row.find?_group] at found
              rw [Option.bind_some, Row.find?_group]
              exact ih found

/-- Two leaves of a map stand beside each other. -/
theorem not_isAbove_of_contains {path other : Text}
    (held : fields.contains (.str path) = true) (otherHeld : fields.contains (.str other) = true) :
    ¬ IsAbove path other := by
  intro isAbove
  obtain ⟨next, rest, longer⟩ := isAbove_iff.mp isAbove
  rw [contains, leaf?, longer, find?_below_leaf held next rest] at otherHeld
  cases otherHeld

/-! ## Rows and first segments -/

/-- The first segment of a path. -/
def firstSegment (path : Text) : Text := path.beforeFirst separator

theorem firstSegment_pathOf {key : Text} (isSegment : IsSegment key) (more : List Text) :
    firstSegment (pathOf (key :: more)) = key := by
  cases more with
  | nil => exact Text.beforeFirst_of_notMem isSegment.noSeparator
  | cons next others =>
      rw [firstSegment, pathOf_cons key (List.cons_ne_nil next others)]
      exact Text.beforeFirst_append_cons isSegment.noSeparator _

/-- Every row of a proper map has a leaf at the end of some path. -/
theorem Proper.mem_names_iff (proper : fields.Proper) {name : Text} :
    name ∈ fields.names ↔ ∃ more, name :: more ∈ fields.paths := by
  constructor
  · intro isName
    induction fields with
    | empty => cases isName
    | leaf key value rest ih =>
        rcases List.mem_cons.mp isName with rfl | inRest
        · exact ⟨[], List.mem_cons_self⟩
        · obtain ⟨more, member⟩ := ih proper.2.2 inRest
          exact ⟨more, List.mem_cons_of_mem _ member⟩
    | group key children rest _ ih =>
        obtain ⟨_, _, filled, childrenProper, restProper⟩ := proper
        rcases List.mem_cons.mp isName with rfl | inRest
        · obtain ⟨inner, isInner⟩ := List.exists_mem_of_ne_nil _ (childrenProper.paths_ne_nil filled)
          exact ⟨inner, List.mem_append_left _ (List.mem_map_of_mem isInner)⟩
        · obtain ⟨more, member⟩ := ih restProper inRest
          exact ⟨more, List.mem_append_right _ member⟩
  · intro hasPath
    obtain ⟨more, member⟩ := hasPath
    obtain ⟨key, others, same, isName⟩ := head_of_mem_paths member
    cases same
    exact isName

theorem Proper.mem_firstSegments_iff (proper : fields.Proper) {name : Text} :
    name ∈ fields.mask.map firstSegment ↔ name ∈ fields.names := by
  have begins : ∀ {key more}, key :: more ∈ fields.paths →
      firstSegment (pathOf (key :: more)) = key := by
    intro key more member
    apply firstSegment_pathOf
    exact proper.isSegment_of_mem_paths member key List.mem_cons_self
  rw [mask_eq_map_paths, List.map_map, List.mem_map]
  constructor
  · intro isFirst
    obtain ⟨path, member, same⟩ := isFirst
    obtain ⟨key, more, rfl, isName⟩ := head_of_mem_paths member
    rw [Function.comp_apply, begins member] at same
    rwa [← same]
  · intro isName
    obtain ⟨more, member⟩ := proper.mem_names_iff.mp isName
    exact ⟨name :: more, member, begins member⟩

theorem Proper.size_eq (proper : fields.Proper) :
    fields.size = (fields.mask.map firstSegment).dedup.length := by
  have sameNames : fields.names.Perm (fields.mask.map firstSegment).dedup := by
    rw [List.perm_ext_iff_of_nodup proper.nodup_names (List.nodup_dedup _)]
    intro name
    rw [List.mem_dedup, proper.mem_firstSegments_iff]
  rw [size_eq_length_names, sameNames.length_eq]

theorem Proper.isEmpty_iff (proper : fields.Proper) :
    fields.isEmpty = true ↔ fields.mask = [] := by
  rw [isEmpty_iff_eq_empty, mask_eq_map_paths, List.map_eq_nil_iff]
  constructor
  · rintro rfl
    rfl
  · intro noPath
    by_contra filled
    exact proper.paths_ne_nil filled noPath

/-! ## The mask of a map that was filled by writes -/

/-- The mask of every map that was filled by writes, of which some may have failed, lists
exactly the paths that are present, each of them once.  None of them is above another one,
and all are made of segments that are not empty.  The map counts as empty exactly if nothing
is listed, and has as many rows as there are different first segments in the list. -/
theorem mask_lists_what_is_present (calls : List (Value × Value)) :
    let fields := empty.storeAll calls
    fields.mask.Nodup ∧
      (∀ path, path ∈ fields.mask ↔ fields.contains (.str path) = true) ∧
      (∀ path ∈ fields.mask, ∀ other ∈ fields.mask, ¬ IsAbove path other) ∧
      (∀ path ∈ fields.mask, ∀ part ∈ segments path, part ≠ []) ∧
      (fields.isEmpty = true ↔ fields.mask = []) ∧
      fields.size = (fields.mask.map firstSegment).dedup.length := by
  intro fields
  have proper : fields.Proper := Proper.storeAll (show empty.Proper from trivial) calls
  have present : ∀ path, path ∈ fields.mask ↔ fields.contains (.str path) = true :=
    fun _ => proper.mem_mask_iff
  refine ⟨proper.nodup_mask, present, ?_, ?_, proper.isEmpty_iff, proper.size_eq⟩
  · intro path member other otherMember
    exact not_isAbove_of_contains ((present path).mp member) ((present other).mp otherMember)
  · intro path member part isPart
    have isPath : segments path ∈ fields.paths := by
      rw [← proper.map_segments_mask]
      exact List.mem_map_of_mem member
    exact (proper.isSegment_of_mem_paths isPath part isPart).nonempty

/-- Writes at two paths of one group, at a path of its own, and two that fail. -/
def mixedWrites : List (Value × Value) :=
  [(.str "idpConfig.ssoUrl", .str "u"), (.str "idpConfig.ssoUrl.deep", .null),
   (.str "enabled", .bool true), (.str "idpConfig.", .null), (.str "idpConfig.signRequest", .null)]

/-- Three paths are listed after these writes, none above another one, and they begin with
two different segments. -/
theorem mask_of_mixedWrites :
    let fields := empty.storeAll mixedWrites
    fields.mask = ["idpConfig.ssoUrl", "idpConfig.signRequest", "enabled"] ∧
      fields.contains (.str "idpConfig.signRequest") = true ∧
      ¬ IsAbove "idpConfig.ssoUrl" "idpConfig.signRequest" ∧
      ([] : Text) ∉ segments "idpConfig.signRequest" ∧ fields.size = 2 := by
  intro fields
  have listed : fields.mask = ["idpConfig.ssoUrl", "idpConfig.signRequest", "enabled"] := by decide
  obtain ⟨_, present, apart, nonempty, _, counted⟩ := mask_lists_what_is_present mixedWrites
  have first : ("idpConfig.ssoUrl" : Text) ∈ fields.mask := by rw [listed]; decide
  have second : ("idpConfig.signRequest" : Text) ∈ fields.mask := by rw [listed]; decide
  refine ⟨listed, (present _).mp second, apart _ first _ second, ?_, ?_⟩
  · exact fun empty => nonempty _ second _ empty rfl
  · rw [counted, listed]
    decide

end SamlAdmin.FieldMap
