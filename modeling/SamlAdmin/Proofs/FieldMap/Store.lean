import SamlAdmin.Proofs.FieldMap.Conflict

/-!
# What can be stored

`store` checks a write and does it in place, and it leaves a map behind also where it meets
a fault.  A map that was filled by such writes is proper, so what stands in the way of a
further one can be asked for from outside: a leaf at the beginning of its path, or a leaf at
a longer path that begins with it.  Nothing else stands in the way of a leaf at a path of
segments, and a write that meets a fault leaves the map as it was.
-/

namespace SamlAdmin

/-- What a field may hold: a text, a flag, null, or a list of certificates alone. -/
inductive Value.IsLeaf : Value → Prop where
  | text (text : Text) : IsLeaf (.str text)
  | flag (flag : Bool) : IsLeaf (.bool flag)
  | cleared : IsLeaf .null
  | certificates (certificates : List Certificate) :
      IsLeaf (.list (certificates.map .certificate))

theorem Value.isLeaf_iff {value : Value} :
    value.IsLeaf ↔ ∃ leaf, Leaf.ofValue? value = some leaf := by
  constructor
  · intro isLeaf
    cases isLeaf with
    | text text => exact ⟨_, rfl⟩
    | flag flag => exact ⟨_, rfl⟩
    | cleared => exact ⟨_, rfl⟩
    | certificates certificates => exact ⟨_, Leaf.ofValue?_toValue (.certificates certificates)⟩
  · rintro ⟨leaf, isLeaf⟩
    rw [Leaf.eq_toValue_of_ofValue? isLeaf]
    cases leaf with
    | text text => exact .text text
    | flag flag => exact .flag flag
    | cleared => exact .cleared
    | certificates certificates => exact .certificates certificates

namespace FieldMap

variable {path value : Value} {dotted : Text} {fields : FieldMap}

/-- Whether a value is a text without an empty segment. -/
def IsPath (path : Value) : Prop :=
  ∃ dotted, path = .str dotted ∧ ∀ segment ∈ segments dotted, segment ≠ []

theorem isPath_str_iff : IsPath (.str dotted) ↔ ∀ segment ∈ segments dotted, segment ≠ [] := by
  constructor
  · rintro ⟨_, same, nonempty⟩
    cases same
    exact nonempty
  · intro nonempty
    exact ⟨dotted, rfl, nonempty⟩

theorem not_isPath_of_any (empty : (segments dotted).any List.isEmpty = true) :
    ¬ IsPath (.str dotted) := by
  obtain ⟨segment, member, isEmpty⟩ := List.any_eq_true.mp empty
  intro isPath
  exact isPath_str_iff.mp isPath segment member (List.isEmpty_iff.mp isEmpty)

theorem IsPath.isSegment (isPath : IsPath (.str dotted)) :
    ∀ part ∈ segments dotted, IsSegment part := fun part member =>
  ⟨isPath_str_iff.mp isPath part member, Text.notMem_of_mem_splitOn member⟩

/-! ## A write in place -/

/-- The fault that reports a conflict at a path. -/
def Conflict.fault (path : Text) : Conflict → SetFault
  | .underLeaf above => .underLeaf path (pathOf above)
  | .overGroup => .overGroup path

/-- Check a write and do it in place.  The answer is the fault, if there is one, with the
map as it is left behind. -/
def store (path value : Value) (fields : FieldMap) : Option SetFault × FieldMap :=
  match path with
  | .str dotted =>
    match segments dotted with
    | [] => (some (.invalidPath path), fields)
    | key :: more =>
      if (key :: more).any List.isEmpty then (some (.invalidPath path), fields)
      else
        match Leaf.ofValue? value with
        | none => (some (.unsupported dotted value.kind), fields)
        | some stored =>
          let (conflict, left) := walk stored key more fields
          (conflict.map (Conflict.fault dotted), left)
  | path => (some (.invalidPath path), fields)

/-- Nothing is left of a write in place that meets a fault. -/
theorem store_eq (path value : Value) (fields : FieldMap) :
    store path value fields = fields.leftBy (fields.set path value) := by
  cases path with
  | str dotted =>
      rw [store, set]
      cases cut : segments dotted with
      | nil => exact absurd cut (segments_ne_nil dotted)
      | cons key more =>
          dsimp only
          cases (key :: more).any List.isEmpty with
          | true => rfl
          | false =>
              cases Leaf.ofValue? value with
              | none => rfl
              | some leaf =>
                  simp only [walk_eq, setLeaf, cut]
                  cases insert leaf key more fields with
                  | ok after => rfl
                  | error conflict => cases conflict <;> rfl
  | _ => rfl

/-- The map after calls of `store`, the ones that met a fault among them. -/
def storeAll (fields : FieldMap) : (calls : List (Value × Value)) → FieldMap
  | [] => fields
  | (path, value) :: calls => storeAll (store path value fields).2 calls

/-- A write that succeeds keeps a map proper. -/
theorem Proper.set {after : FieldMap} (proper : fields.Proper)
    (written : fields.set path value = .ok after) : after.Proper := by
  cases path with
  | str dotted =>
      obtain ⟨leaf, key, more, _, cut, nonempty, inserted⟩ := set_eq_ok written
      have isPath := IsPath.isSegment (isPath_str_iff.mpr nonempty)
      rw [cut] at isPath
      exact proper.insert isPath inserted
  | _ => cases written

theorem Proper.store (proper : fields.Proper) (path value : Value) :
    (store path value fields).2.Proper := by
  rw [store_eq]
  cases written : fields.set path value with
  | error fault => exact proper
  | ok after => exact proper.set written

theorem Proper.storeAll (proper : fields.Proper) (calls : List (Value × Value)) :
    (fields.storeAll calls).Proper := by
  induction calls generalizing fields with
  | nil => exact proper
  | cons call calls ih => exact ih (proper.store call.1 call.2)

/-! ## What stands in the way -/

theorem set_of_not_isPath (invalid : ¬ IsPath path) (value : Value) (fields : FieldMap) :
    fields.set path value = .error (.invalidPath path) := by
  cases path with
  | str dotted =>
      cases empty : (segments dotted).any List.isEmpty with
      | true => rw [set, if_pos empty]
      | false =>
          refine absurd (isPath_str_iff.mpr ?_) invalid
          intro segment member isEmpty
          exact List.any_eq_false.mp empty segment member (List.isEmpty_iff.mpr isEmpty)
  | _ => rfl

theorem set_of_not_isLeaf (isPath : IsPath (.str dotted)) (other : ¬ value.IsLeaf)
    (fields : FieldMap) :
    fields.set (.str dotted) value = .error (.unsupported dotted value.kind) := by
  rw [set, if_neg fun empty => not_isPath_of_any empty isPath]
  cases kind : Leaf.ofValue? value with
  | none => rfl
  | some leaf => exact absurd (Value.isLeaf_iff.mpr ⟨leaf, kind⟩) other

theorem set_toValue (isPath : IsPath (.str dotted)) {key : Text} {more : List Text}
    (cut : segments dotted = key :: more) (leaf : Leaf) (fields : FieldMap) :
    fields.set (.str dotted) leaf.toValue =
      (insert leaf key more fields).mapError (Conflict.fault dotted) := by
  rw [set, if_neg fun empty => not_isPath_of_any empty isPath, Leaf.ofValue?_toValue]
  simp only [setLeaf, cut]
  cases insert leaf key more fields with
  | ok after => rfl
  | error conflict => cases conflict <;> rfl

theorem set_of_isLeaf (isPath : IsPath (.str dotted)) (isLeaf : value.IsLeaf)
    (fields : FieldMap) :
    ∃ leaf key more, segments dotted = key :: more ∧
      fields.set (.str dotted) value =
        (insert leaf key more fields).mapError (Conflict.fault dotted) := by
  obtain ⟨leaf, kind⟩ := Value.isLeaf_iff.mp isLeaf
  obtain ⟨key, more, cut⟩ := List.exists_cons_of_ne_nil (segments_ne_nil dotted)
  refine ⟨leaf, key, more, cut, ?_⟩
  rw [Leaf.eq_toValue_of_ofValue? kind]
  exact set_toValue isPath cut leaf fields

theorem set_eq_underLeaf_iff (isPath : IsPath (.str dotted)) (isLeaf : value.IsLeaf)
    {above : Text} :
    fields.set (.str dotted) value = .error (.underLeaf dotted above) ↔
      IsAbove above dotted ∧ fields.contains (.str above) = true := by
  obtain ⟨leaf, key, more, cut, written⟩ := set_of_isLeaf isPath isLeaf fields
  rw [written, mapError_eq_error_iff]
  constructor
  · rintro ⟨conflict, failed, reported⟩
    cases conflict with
    | overGroup => cases reported
    | underLeaf front =>
        cases reported
        obtain ⟨⟨next, rest, longer⟩, found⟩ := insert_eq_underLeaf_iff.mp failed
        have nonempty : front ≠ [] := by
          rintro rfl
          rw [find?_nil] at found
          cases found
        have parts : ∀ part ∈ front, IsSegment part := fun part member =>
          isPath.isSegment part (by rw [cut, longer]; exact List.mem_append_left _ member)
        have again : segments (pathOf front) = front := segments_pathOf nonempty parts
        refine ⟨isAbove_iff.mpr ⟨next, rest, ?_⟩, ?_⟩
        · rw [again, cut, longer]
        · rwa [contains, leaf?, again]
  · rintro ⟨isAbove, found⟩
    have longer := isAbove_iff.mp isAbove
    rw [cut] at longer
    refine ⟨_, insert_eq_underLeaf_iff.mpr ⟨longer, found⟩, ?_⟩
    rw [Conflict.fault, pathOf, segments, Text.join_splitOn]

/-- A leaf cannot be stored where longer paths have leaves. -/
theorem Proper.set_eq_overGroup_iff (proper : fields.Proper) (isPath : IsPath (.str dotted))
    (isLeaf : value.IsLeaf) :
    fields.set (.str dotted) value = .error (.overGroup dotted) ↔
      ∃ below, IsAbove dotted below ∧ fields.contains (.str below) = true := by
  obtain ⟨leaf, key, more, cut, written⟩ := set_of_isLeaf isPath isLeaf fields
  rw [written, mapError_eq_error_iff]
  constructor
  · rintro ⟨conflict, failed, reported⟩
    cases conflict with
    | underLeaf front => cases reported
    | overGroup =>
        obtain ⟨next, rest, found⟩ := proper.insert_eq_overGroup_iff.mp failed
        have parts := proper.isSegment_of_mem_paths (proper.mem_paths_iff.mpr found)
        have again : segments (pathOf (key :: (more ++ next :: rest))) =
            key :: (more ++ next :: rest) := segments_pathOf (by simp) parts
        refine ⟨pathOf (key :: (more ++ next :: rest)), isAbove_iff.mpr ⟨next, rest, ?_⟩, ?_⟩
        · rw [again, cut, List.cons_append]
        · rwa [contains, leaf?, again]
  · rintro ⟨below, isAbove, found⟩
    obtain ⟨next, rest, longer⟩ := isAbove_iff.mp isAbove
    rw [contains, leaf?, longer, cut] at found
    exact ⟨.overGroup, proper.insert_eq_overGroup_iff.mpr ⟨next, rest, found⟩, rfl⟩

/-- A leaf at a path is stored, or a leaf above the path or below it stands in the way. -/
theorem set_ok_or_conflict (isPath : IsPath (.str dotted)) (isLeaf : value.IsLeaf)
    (fields : FieldMap) :
    (∃ after, fields.set (.str dotted) value = .ok after) ∨
      (∃ above, fields.set (.str dotted) value = .error (.underLeaf dotted above)) ∨
      fields.set (.str dotted) value = .error (.overGroup dotted) := by
  obtain ⟨leaf, key, more, _, written⟩ := set_of_isLeaf isPath isLeaf fields
  rw [written]
  cases insert leaf key more fields with
  | ok after => exact Or.inl ⟨after, rfl⟩
  | error conflict =>
      cases conflict with
      | underLeaf front => exact Or.inr (Or.inl ⟨pathOf front, rfl⟩)
      | overGroup => exact Or.inr (Or.inr rfl)

theorem set_eq_invalidPath_iff :
    fields.set path value = .error (.invalidPath path) ↔ ¬ IsPath path := by
  refine ⟨fun refused isPath => ?_, fun invalid => set_of_not_isPath invalid value fields⟩
  obtain ⟨dotted, rfl, _⟩ := id isPath
  by_cases isLeaf : value.IsLeaf
  · rcases set_ok_or_conflict isPath isLeaf fields with ⟨after, same⟩ | ⟨above, same⟩ | same
    · cases refused.symm.trans same
    · cases refused.symm.trans same
    · cases refused.symm.trans same
  · cases refused.symm.trans (set_of_not_isLeaf isPath isLeaf fields)

theorem set_eq_unsupported_iff (isPath : IsPath (.str dotted)) :
    fields.set (.str dotted) value = .error (.unsupported dotted value.kind) ↔
      ¬ value.IsLeaf := by
  refine ⟨fun refused isLeaf => ?_, fun other => set_of_not_isLeaf isPath other fields⟩
  rcases set_ok_or_conflict isPath isLeaf fields with ⟨after, same⟩ | ⟨above, same⟩ | same
  · cases refused.symm.trans same
  · cases refused.symm.trans same
  · cases refused.symm.trans same

/-- A leaf is stored at a path if no leaf stands above the path and none below it. -/
theorem Proper.exists_set_iff (proper : fields.Proper) (isPath : IsPath (.str dotted))
    (isLeaf : value.IsLeaf) :
    (∃ after, fields.set (.str dotted) value = .ok after) ↔
      ¬ (∃ above, IsAbove above dotted ∧ fields.contains (.str above) = true) ∧
        ¬ ∃ below, IsAbove dotted below ∧ fields.contains (.str below) = true := by
  rw [← proper.set_eq_overGroup_iff isPath isLeaf]
  simp only [← set_eq_underLeaf_iff isPath isLeaf]
  constructor
  · rintro ⟨after, written⟩
    refine ⟨?_, ?_⟩
    · rintro ⟨above, refused⟩
      cases written.symm.trans refused
    · intro refused
      cases written.symm.trans refused
  · rintro ⟨noneAbove, noneBelow⟩
    rcases set_ok_or_conflict isPath isLeaf fields with stored | underLeaf | overGroup
    · exact stored
    · exact absurd underLeaf noneAbove
    · exact absurd overGroup noneBelow

/-- In every map that was filled by writes, a write is refused for one of four reasons, in
this order: its path is not a text of segments, its value is not a leaf, a leaf stands above
its path, leaves stand below its path.  A write that is refused leaves the map as it was,
though it is done in place, and every other one leaves its result. -/
theorem store_outcome (calls : List (Value × Value)) (path value : Value) :
    let fields := empty.storeAll calls
    (fields.set path value = .error (.invalidPath path) ↔ ¬ IsPath path) ∧
      (∀ dotted, path = .str dotted → IsPath path →
        (fields.set path value = .error (.unsupported dotted value.kind) ↔ ¬ value.IsLeaf) ∧
        (value.IsLeaf →
          (∀ above, fields.set path value = .error (.underLeaf dotted above) ↔
            IsAbove above dotted ∧ fields.contains (.str above) = true) ∧
          (fields.set path value = .error (.overGroup dotted) ↔
            ∃ below, IsAbove dotted below ∧ fields.contains (.str below) = true) ∧
          ((∃ after, fields.set path value = .ok after) ↔
            ¬ (∃ above, IsAbove above dotted ∧ fields.contains (.str above) = true) ∧
              ¬ ∃ below, IsAbove dotted below ∧ fields.contains (.str below) = true))) ∧
      (∀ fault, fields.set path value = .error fault →
        fields.store path value = (some fault, fields)) ∧
      ∀ after, fields.set path value = .ok after → fields.store path value = (none, after) := by
  intro fields
  have proper : fields.Proper := Proper.storeAll (show empty.Proper from trivial) calls
  refine ⟨set_eq_invalidPath_iff, ?_, ?_, ?_⟩
  · rintro dotted rfl isPath
    refine ⟨set_eq_unsupported_iff isPath, fun isLeaf => ⟨?_, ?_, ?_⟩⟩
    · exact fun above => set_eq_underLeaf_iff isPath isLeaf
    · exact proper.set_eq_overGroup_iff isPath isLeaf
    · exact proper.exists_set_iff isPath isLeaf
  · intro fault refused
    rw [store_eq, refused]
    rfl
  · intro after written
    rw [store_eq, written]
    rfl

/-- Nothing can be stored over a group, which is not less true after a write that failed
below a leaf of the group. -/
theorem store_over_group :
    let fields := empty.storeAll
      [(.str "idpConfig.ssoUrl", .str "u"), (.str "idpConfig.ssoUrl.more.deep", .null)]
    fields.mask = [("idpConfig.ssoUrl" : Text)] ∧
      fields.store (.str "idpConfig") (.bool true) = (some (.overGroup "idpConfig"), fields) := by
  intro fields
  obtain ⟨_, atPath, refused, _⟩ := store_outcome
    [(.str "idpConfig.ssoUrl", .str "u"), (.str "idpConfig.ssoUrl.more.deep", .null)]
    (.str "idpConfig") (.bool true)
  have isPath : IsPath (.str "idpConfig") := isPath_str_iff.mpr (by decide)
  have below : ∃ below, IsAbove "idpConfig" below ∧ fields.contains (.str below) = true :=
    ⟨"idpConfig.ssoUrl", ⟨"ssoUrl", rfl⟩, by decide⟩
  exact ⟨by decide, refused _ ((((atPath _ rfl isPath).2 (.flag true)).2.1).mpr below)⟩

end FieldMap

end SamlAdmin
