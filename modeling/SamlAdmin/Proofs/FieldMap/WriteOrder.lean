import SamlAdmin.Proofs.FieldMap.Frame
import SamlAdmin.Proofs.FieldMap.Present

/-!
# The order of writes

Two writes at different paths do the same in either order.  Whether both succeed depends on
what stands in the map and on the two paths, neither of which may be above the other, and
this condition is the same for both orders.  The two maps that are left have the same leaves.
They may differ in the order of their rows, and in nothing else: maps with the same leaves
answer alike, list the same paths, and stand for the same body up to the order of members.
-/

namespace SamlAdmin

/-- Whether two values are equal when the order of the members of an object does not count,
neither in the value itself nor in an object that is a member. -/
inductive Value.EqUpToOrder : Value → Value → Prop where
  | same (value : Value) : EqUpToOrder value value
  | object {members others : List (Text × Value)} (distinct : (members.map Prod.fst).Nodup)
      (sameKeys : (members.map Prod.fst).Perm (others.map Prod.fst))
      (agree : ∀ key value other, Members.lookup key members = some value →
        Members.lookup key others = some other → EqUpToOrder value other) :
      EqUpToOrder (.object members) (.object others)

namespace FieldMap

/-! ## Maps with the same leaves -/

/-- Whether two maps have the same leaf at every path. -/
def SameLeaves (left right : FieldMap) : Prop :=
  ∀ path, find? path left = find? path right

/-- What holds of a map if it holds of all its groups holds of every map. -/
theorem group_induction {motive : FieldMap → Prop}
    (step : ∀ fields, (∀ key children, row? key fields = some (.group children) →
      motive children) → motive fields) (fields : FieldMap) : motive fields := by
  have withGroups : motive fields ∧
      ∀ key children, fields.row? key = some (.group children) → motive children := by
    induction fields with
    | empty =>
        have groups : ∀ key children, row? key empty = some (.group children) →
            motive children := fun _ _ isRow => nomatch isRow
        exact ⟨step .empty groups, groups⟩
    | leaf name value rest ih =>
        have groups : ∀ key children, row? key (.leaf name value rest) = some (.group children) →
            motive children := by
          intro key children isRow
          by_cases same : name = key
          · rw [row?, if_pos same] at isRow
            cases isRow
          · rw [row?, if_neg same] at isRow
            exact ih.2 key children isRow
        exact ⟨step _ groups, groups⟩
    | group name inner rest innerIh restIh =>
        have groups : ∀ key children, row? key (.group name inner rest) = some (.group children) →
            motive children := by
          intro key children isRow
          by_cases same : name = key
          · rw [row?, if_pos same] at isRow
            cases isRow
            exact innerIh.1
          · rw [row?, if_neg same] at isRow
            exact restIh.2 key children isRow
        exact ⟨step _ groups, groups⟩
  exact withGroups.1

variable {fields left right : FieldMap} {key : Text}

theorem Proper.mem_names_iff_isSome (proper : fields.Proper) :
    key ∈ fields.names ↔ ∃ more, (find? (key :: more) fields).isSome = true := by
  rw [proper.mem_names_iff]
  exact exists_congr fun more => proper.mem_paths_iff

namespace SameLeaves

theorem get_eq (same : SameLeaves left right) (asked otherwise : Value) :
    left.get asked otherwise = right.get asked otherwise := by
  simp only [get]
  cases asked.toSplittable with
  | error fault => rfl
  | ok path =>
      dsimp only
      rw [same]

theorem contains_eq (same : SameLeaves left right) (asked : Value) :
    left.contains asked = right.contains asked := by
  cases asked with
  | str path => exact congrArg Option.isSome (same (segments path))
  | _ => rfl

theorem perm_names (same : SameLeaves left right) (leftProper : left.Proper)
    (rightProper : right.Proper) : left.names.Perm right.names := by
  rw [List.perm_ext_iff_of_nodup leftProper.nodup_names rightProper.nodup_names]
  intro key
  rw [leftProper.mem_names_iff_isSome, rightProper.mem_names_iff_isSome]
  apply exists_congr
  intro more
  rw [same]

theorem perm_mask (same : SameLeaves left right) (leftProper : left.Proper)
    (rightProper : right.Proper) : left.mask.Perm right.mask := by
  rw [List.perm_ext_iff_of_nodup leftProper.nodup_mask rightProper.nodup_mask]
  intro path
  rw [leftProper.mem_mask_iff, rightProper.mem_mask_iff, leaf?, leaf?, same]

/-- Where two maps with the same leaves have rows with one key, these rows have the same
leaves. -/
theorem find?_row (same : SameLeaves left right) {row other : Row}
    (isRow : left.row? key = some row) (isOther : right.row? key = some other)
    (more : List Text) : Row.find? more row = Row.find? more other := by
  have found := same (key :: more)
  rw [find?_cons, find?_cons, isRow, isOther, Option.bind_some, Option.bind_some] at found
  exact found

/-- Proper maps with the same leaves stand for the same body up to the order of members. -/
theorem eqUpToOrder_toBody (same : SameLeaves left right) (leftProper : left.Proper)
    (rightProper : right.Proper) : left.toBody.EqUpToOrder right.toBody := by
  induction left using group_induction generalizing right with
  | step left ih =>
      apply Value.EqUpToOrder.object
      · rw [map_fst_members]
        exact leftProper.nodup_names
      · rw [map_fst_members, map_fst_members]
        exact same.perm_names leftProper rightProper
      · intro key value other isMember isOther
        rw [lookup_members, Option.map_eq_some_iff] at isMember isOther
        obtain ⟨row, isRow, rfl⟩ := isMember
        obtain ⟨otherRow, isOtherRow, rfl⟩ := isOther
        have alike := same.find?_row isRow isOtherRow
        cases row with
        | leaf held =>
            have endsHere := alike []
            cases otherRow with
            | leaf otherHeld =>
                cases endsHere
                exact .same _
            | group children =>
                rw [Row.find?_group, find?_nil] at endsHere
                cases endsHere
        | group children =>
            cases otherRow with
            | leaf otherHeld =>
                have endsHere := alike []
                rw [Row.find?_group, find?_nil] at endsHere
                cases endsHere
            | group otherChildren =>
                apply ih key children isRow
                · intro path
                  rw [← Row.find?_group, alike path, Row.find?_group]
                · exact (leftProper.of_row isRow).1
                · exact (rightProper.of_row isOtherRow).1

end SameLeaves

/-! ## When two writes succeed -/

/-- Whether one of two paths is above the other. -/
def Clash (path other : Text) : Prop := IsAbove path other ∨ IsAbove other path

theorem clash_comm {path other : Text} : Clash path other ↔ Clash other path := Or.comm

/-- Whether no leaf of a map clashes with a path. -/
def IsFree (path : Text) (fields : FieldMap) : Prop :=
  ∀ held, fields.contains (.str held) = true → ¬ Clash held path

variable {path other : Text} {value given : Value} {after : FieldMap}

theorem isFree_iff :
    IsFree path fields ↔
      ¬ (∃ above, IsAbove above path ∧ fields.contains (.str above) = true) ∧
        ¬ ∃ below, IsAbove path below ∧ fields.contains (.str below) = true := by
  simp only [IsFree, Clash, not_or, not_exists, not_and]
  constructor
  · intro free
    exact ⟨fun above isAbove held => (free above held).1 isAbove,
      fun below isBelow held => (free below held).2 isBelow⟩
  · intro apart held isHeld
    exact ⟨fun isAbove => apart.1 held isAbove isHeld, fun isBelow => apart.2 held isBelow isHeld⟩

/-- A write succeeds if its path and its value are well formed and the path is free. -/
theorem Proper.exists_set_iff_isFree (proper : fields.Proper) :
    (∃ after, fields.set (.str path) value = .ok after) ↔
      IsPath (.str path) ∧ value.IsLeaf ∧ IsFree path fields := by
  rw [isFree_iff]
  constructor
  · intro succeeds
    obtain ⟨after, written⟩ := id succeeds
    obtain ⟨leaf, _, _, kind, _, nonempty, _⟩ := set_eq_ok written
    have isPath : IsPath (.str path) := isPath_str_iff.mpr nonempty
    have isLeaf : value.IsLeaf := Value.isLeaf_iff.mpr ⟨leaf, kind⟩
    exact ⟨isPath, isLeaf, (proper.exists_set_iff isPath isLeaf).mp succeeds⟩
  · intro wellFormed
    obtain ⟨isPath, isLeaf, free⟩ := wellFormed
    exact (proper.exists_set_iff isPath isLeaf).mpr free

/-- What is found after a write, at its path and at every other one. -/
theorem find?_of_set (written : fields.set (.str path) value = .ok after) (asked : List Text) :
    find? asked after = if asked = segments path then Leaf.ofValue? value else find? asked fields := by
  obtain ⟨leaf, key, more, isLeaf, cut, _, inserted⟩ := set_eq_ok written
  rw [find?_insert inserted, cut, isLeaf]

/-- After a write a path is free if it was before and does not clash with the new leaf. -/
theorem isFree_of_set_iff (written : fields.set (.str path) value = .ok after) :
    IsFree other after ↔ IsFree other fields ∧ ¬ Clash path other := by
  obtain ⟨⟨leaf, _, found⟩, elsewhere⟩ := leaf?_of_set written
  have holds : after.contains (.str path) = true := by
    rw [contains, found]
    rfl
  have same : ∀ held, held ≠ path → after.contains (.str held) = fields.contains (.str held) :=
    fun held different => congrArg Option.isSome (elsewhere held different)
  constructor
  · intro free
    refine ⟨fun held isHeld => ?_, free path holds⟩
    by_cases own : held = path
    · rw [own]
      exact free path holds
    · rw [← same held own] at isHeld
      exact free held isHeld
  · intro free held isHeld
    by_cases own : held = path
    · rw [own]
      exact free.2
    · rw [same held own] at isHeld
      exact free.1 held isHeld

/-- Two writes succeed one after the other if each of them does and their paths do not
clash. -/
theorem Proper.exists_two_iff (proper : fields.Proper) :
    (∃ after, (fields.set (.str path) value).bind (FieldMap.set (.str other) given) = .ok after) ↔
      (IsPath (.str path) ∧ value.IsLeaf ∧ IsFree path fields) ∧
        (IsPath (.str other) ∧ given.IsLeaf ∧ IsFree other fields) ∧ ¬ Clash path other := by
  simp only [bind_eq_ok_iff]
  constructor
  · intro succeed
    obtain ⟨after, between, written, second⟩ := succeed
    obtain ⟨isPath, isLeaf, free⟩ := (proper.set written).exists_set_iff_isFree.mp ⟨after, second⟩
    rw [isFree_of_set_iff written] at free
    exact ⟨proper.exists_set_iff_isFree.mp ⟨between, written⟩, ⟨isPath, isLeaf, free.1⟩, free.2⟩
  · intro conditions
    obtain ⟨first, ⟨isPath, isLeaf, free⟩, apart⟩ := conditions
    obtain ⟨between, written⟩ := proper.exists_set_iff_isFree.mpr first
    have stillFree := (isFree_of_set_iff written).mpr ⟨free, apart⟩
    obtain ⟨after, second⟩ :=
      (proper.set written).exists_set_iff_isFree.mpr ⟨isPath, isLeaf, stillFree⟩
    exact ⟨after, between, written, second⟩

theorem Proper.exists_swapped (proper : fields.Proper) {path other : Value}
    (succeed : ∃ after, (fields.set path value).bind (FieldMap.set other given) = .ok after) :
    ∃ after, (fields.set other given).bind (FieldMap.set path value) = .ok after := by
  obtain ⟨after, both⟩ := id succeed
  obtain ⟨between, written, second⟩ := bind_eq_ok_iff.mp both
  obtain ⟨first, rfl⟩ := exists_text_of_set written
  obtain ⟨last, rfl⟩ := exists_text_of_set second
  rw [proper.exists_two_iff] at succeed ⊢
  rw [clash_comm]
  exact ⟨succeed.2.1, succeed.1, succeed.2.2⟩

/-! ## Both orders -/

/-- Two writes at different paths leave the same leaves in either order. -/
theorem sameLeaves_of_swapped {path other : Value} (different : path ≠ other)
    (written : (fields.set path value).bind (set other given) = .ok left)
    (swapped : (fields.set other given).bind (set path value) = .ok right) :
    SameLeaves left right := by
  obtain ⟨one, first, second⟩ := bind_eq_ok_iff.mp written
  obtain ⟨two, otherFirst, otherSecond⟩ := bind_eq_ok_iff.mp swapped
  obtain ⟨dotted, rfl⟩ := exists_text_of_set first
  obtain ⟨otherDotted, rfl⟩ := exists_text_of_set second
  have apart : segments dotted ≠ segments otherDotted := by
    intro same
    exact different (congrArg Value.str (segments_injective same.symm).symm)
  intro asked
  rw [find?_of_set second, find?_of_set first, find?_of_set otherSecond, find?_of_set otherFirst]
  by_cases isFirst : asked = segments dotted
  · rw [isFirst, if_neg apart]
    simp
  · rw [if_neg isFirst, if_neg isFirst]

/-- Writes at different paths commute in every map that was filled by writes, of which some
may have failed.  Both succeed in the one order exactly if they do in the other, and then the
two maps answer alike for every path, their masks are permutations of each other, and their
bodies are equal up to the order of members, in groups as well. -/
theorem different_writes_commute (calls : List (Value × Value)) {path other : Value}
    (different : path ≠ other) (value given : Value) :
    let fields := empty.storeAll calls
    ((∃ after, (fields.set path value).bind (set other given) = .ok after) ↔
        ∃ after, (fields.set other given).bind (set path value) = .ok after) ∧
      ∀ left right, (fields.set path value).bind (set other given) = .ok left →
        (fields.set other given).bind (set path value) = .ok right →
        (∀ asked otherwise, left.get asked otherwise = right.get asked otherwise) ∧
          (∀ asked, left.contains asked = right.contains asked) ∧
          left.mask.Perm right.mask ∧ left.toBody.EqUpToOrder right.toBody := by
  intro fields
  have proper : fields.Proper := Proper.storeAll (show empty.Proper from trivial) calls
  refine ⟨⟨proper.exists_swapped, proper.exists_swapped⟩, ?_⟩
  intro left right written swapped
  have same := sameLeaves_of_swapped different written swapped
  have leftProper : left.Proper := by
    obtain ⟨between, first, second⟩ := bind_eq_ok_iff.mp written
    exact (proper.set first).set second
  have rightProper : right.Proper := by
    obtain ⟨between, first, second⟩ := bind_eq_ok_iff.mp swapped
    exact (proper.set first).set second
  exact ⟨same.get_eq, same.contains_eq, same.perm_mask leftProper rightProper,
    same.eqUpToOrder_toBody leftProper rightProper⟩

/-- Two writes in one group, which the first of them makes in either order. -/
theorem writes_in_new_group_commute :
    let fields := empty.storeAll [(.str "enabled", .bool true), (.str "enabled.deep", .null)]
    let writeUrl := fields.set (.str "idpConfig.ssoUrl") (.str "u")
    let writeFlag := fields.set (.str "idpConfig.signRequest") .null
    ∃ left right, writeUrl.bind (set (.str "idpConfig.signRequest") .null) = .ok left ∧
      writeFlag.bind (set (.str "idpConfig.ssoUrl") (.str "u")) = .ok right ∧
      left.mask ≠ right.mask ∧ left.mask.Perm right.mask ∧
      left.toBody.EqUpToOrder right.toBody := by
  intro fields writeUrl writeFlag
  have different : Value.str "idpConfig.ssoUrl" ≠ .str "idpConfig.signRequest" := by
    intro same
    exact absurd (Value.str.inj same) (by decide)
  obtain ⟨_, alike⟩ := different_writes_commute
    [(.str "enabled", .bool true), (.str "enabled.deep", .null)] different (.str "u") .null
  obtain ⟨_, _, perm, equal⟩ := alike _ _ rfl rfl
  exact ⟨_, _, rfl, rfl, by decide, perm, equal⟩

end FieldMap

end SamlAdmin
