import SamlAdmin.Proofs.FieldMap.Rows

/-!
# Writing in place

`insert` gives the map after a write or the conflict that stands in its way.  In place a
write has no such choice: it goes from group to group, makes the groups that are missing on
its way, and finds out last whether its leaf has a place.  `walk` is the write in place, and
its answer is the conflict, if there is one, with the map as it is left behind.

Both agree, so nothing is left of a write that meets a conflict.  What could be left are the
groups that were made, and below such a group there is nothing to conflict with.
-/

namespace SamlAdmin.FieldMap

variable {key : Text} {more : List Text} {value : Leaf} {fields : FieldMap} {row : Row}

/-! ## Rows in place -/

/-- A row in front of other rows. -/
def Row.before (key : Text) (rest : FieldMap) : Row → FieldMap
  | .leaf value => .leaf key value rest
  | .group children => .group key children rest

/-- Put a row under a key: in the place of the row that has the key, or behind all rows. -/
def putRow (key : Text) (row : Row) : FieldMap → FieldMap
  | .empty => row.before key .empty
  | .leaf name value rest =>
    if name = key then row.before key rest else .leaf name value (putRow key row rest)
  | .group name children rest =>
    if name = key then row.before key rest else .group name children (putRow key row rest)

theorem putRow_self (found : fields.row? key = some row) : fields.putRow key row = fields := by
  induction fields with
  | empty => cases found
  | leaf name value rest ih =>
      by_cases same : name = key
      · rw [row?, if_pos same] at found
        cases found
        simp [putRow, same, Row.before]
      · rw [row?, if_neg same] at found
        rw [putRow, if_neg same, ih found]
  | group name children rest _ ih =>
      by_cases same : name = key
      · rw [row?, if_pos same] at found
        cases found
        simp [putRow, same, Row.before]
      · rw [row?, if_neg same] at found
        rw [putRow, if_neg same, ih found]

theorem row?_putRow_self (key : Text) (row : Row) (fields : FieldMap) :
    (fields.putRow key row).row? key = some row := by
  induction fields with
  | empty => cases row <;> simp [putRow, Row.before, row?]
  | leaf name value rest ih =>
      by_cases same : name = key
      · cases row <;> simp [putRow, same, Row.before, row?]
      · simp [putRow, same, row?, ih]
  | group name children rest _ ih =>
      by_cases same : name = key
      · cases row <;> simp [putRow, same, Row.before, row?]
      · simp [putRow, same, row?, ih]

theorem putRow_putRow (key : Text) (earlier row : Row) (fields : FieldMap) :
    (fields.putRow key earlier).putRow key row = fields.putRow key row := by
  induction fields with
  | empty => cases earlier <;> simp [putRow, Row.before]
  | leaf name value rest ih =>
      by_cases same : name = key
      · cases earlier <;> simp [putRow, same, Row.before]
      · simp [putRow, same, ih]
  | group name children rest _ ih =>
      by_cases same : name = key
      · cases earlier <;> simp [putRow, same, Row.before]
      · simp [putRow, same, ih]

/-! ## A write by the row of its key -/

/-- What a write makes of the row of its first key: a leaf where the path ends, and a group
where it goes on. -/
def Row.write (value : Leaf) (key : Text) : (more : List Text) → Option Row → Except Conflict Row
  | [], some (.group _) => .error .overGroup
  | [], some (.leaf _) => .ok (.leaf value)
  | [], none => .ok (.leaf value)
  | _ :: _, some (.leaf _) => .error (.underLeaf [key])
  | next :: more, some (.group children) =>
    ((insert value next more children).map .group).mapError (.within key)
  | next :: more, none => .ok (.group (single value next more))

/-- A write concerns the row of its first key alone. -/
theorem insert_eq_map_write (value : Leaf) (key : Text) (more : List Text) (fields : FieldMap) :
    insert value key more fields =
      (Row.write value key more (fields.row? key)).map fun row => fields.putRow key row := by
  induction fields with
  | empty => cases more <;> rfl
  | leaf name old rest ih =>
      by_cases same : name = key
      · subst same
        cases more with
        | nil => simp [insert_leaf_same, row?, Row.write, putRow, Row.before, Except.map]
        | cons next more => simp [insert_under_leaf, row?, Row.write, Except.map]
      · rw [insert_after_leaf same, ih, row?, if_neg same]
        simp only [putRow, if_neg same]
        cases Row.write value key more (rest.row? key) <;> rfl
  | group name children rest _ ih =>
      by_cases same : name = key
      · subst same
        cases more with
        | nil => simp [insert_over_group, row?, Row.write, Except.map]
        | cons next more =>
            simp only [insert_into_group, row?, if_pos, Row.write, putRow]
            cases insert value next more children <;> rfl
      · rw [insert_after_group same, ih, row?, if_neg same]
        simp only [putRow, if_neg same]
        cases Row.write value key more (rest.row? key) <;> rfl

/-! ## The write in place -/

/-- The group in which a walk goes on: the one that stands there, or an empty one. -/
def Row.children? : Option Row → Option FieldMap
  | some (.leaf _) => none
  | some (.group children) => some children
  | none => some .empty

/-- Write a leaf in place.  The groups that are missing are made on the way, and stay. -/
def walk (value : Leaf) (key : Text) :
    (more : List Text) → FieldMap → Option Conflict × FieldMap
  | [], fields =>
    match fields.row? key with
    | some (.group _) => (some .overGroup, fields)
    | _ => (none, fields.putRow key (.leaf value))
  | next :: more, fields =>
    match Row.children? (fields.row? key) with
    | none => (some (.underLeaf [key]), fields)
    | some children =>
      let (conflict, left) := walk value next more children
      (conflict.map (.within key), fields.putRow key (.group left))

/-- What is left of a map by a write that was decided as a whole. -/
def leftBy {ε : Type} (fields : FieldMap) : Except ε FieldMap → Option ε × FieldMap
  | .ok after => (none, after)
  | .error fault => (some fault, fields)

/-- The write in place leaves what the write as a whole gives, and leaves the map as it was
where there is a conflict. -/
theorem walk_eq (value : Leaf) (key : Text) (more : List Text) (fields : FieldMap) :
    walk value key more fields = fields.leftBy (insert value key more fields) := by
  induction more generalizing key fields with
  | nil =>
      rw [walk, insert_eq_map_write]
      cases fields.row? key with
      | none => rfl
      | some row => cases row <;> rfl
  | cons next more ih =>
      rw [walk, insert_eq_map_write]
      cases found : fields.row? key with
      | none =>
          -- a group that was just made is empty, and there the write goes through
          simp only [Row.children?, ih]
          rfl
      | some row =>
          cases row with
          | leaf held => rfl
          | group children =>
              simp only [Row.children?, ih, Row.write]
              cases insert value next more children with
              | ok after => rfl
              | error conflict =>
                  have kept : fields.putRow key (.group children) = fields := putRow_self found
                  simp only [leftBy, kept]
                  rfl

end SamlAdmin.FieldMap
