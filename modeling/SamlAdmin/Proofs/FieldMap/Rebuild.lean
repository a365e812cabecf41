import SamlAdmin.Proofs.FieldMap.Store

/-!
# A map from its mask

A map can be copied path by path: the value that it holds at each path of its mask is stored
at the same path of an empty map.  The mask lists the leaves of a group together, so every
group is made once, by the first of its leaves, and the next row is put behind it.  What was
copied so far is at every moment the beginning of the map, and in the end it is the map.
-/

namespace SamlAdmin.FieldMap

variable {fields front : FieldMap} {key : Text} {row : Row}

/-! ## The leaves with their paths -/

/-- A leaf with its path, as seen from one group further out. -/
def underKey (key : Text) (entry : List Text × Leaf) : List Text × Leaf :=
  (key :: entry.1, entry.2)

/-- The leaves of a map with their paths, in the order of the mask. -/
def entries : FieldMap → List (List Text × Leaf)
  | .empty => []
  | .leaf key value rest => ([key], value) :: entries rest
  | .group key children rest => (entries children).map (underKey key) ++ entries rest

theorem map_fst_entries (fields : FieldMap) : fields.entries.map Prod.fst = fields.paths := by
  induction fields with
  | empty => rfl
  | leaf key value rest ih => rw [entries, List.map_cons, ih, paths]
  | group key children rest childrenIh restIh =>
      rw [entries, List.map_append, restIh, paths, ← childrenIh, List.map_map, List.map_map]
      rfl

theorem Proper.find?_of_mem_entries (proper : fields.Proper) {path : List Text} {leaf : Leaf}
    (member : (path, leaf) ∈ fields.entries) : find? path fields = some leaf := by
  induction fields generalizing path with
  | empty => cases member
  | leaf name value rest ih =>
      obtain ⟨_, fresh, restProper⟩ := proper
      rcases List.mem_cons.mp member with same | inRest
      · cases same
        simp [find?]
      · have found := ih restProper inRest
        obtain ⟨first, more, rfl, other⟩ := exists_head_of_find? fresh found
        rw [find?, if_neg other, found]
  | group name children rest childrenIh restIh =>
      obtain ⟨_, fresh, _, childrenProper, restProper⟩ := proper
      rcases List.mem_append.mp member with inGroup | inRest
      · obtain ⟨inner, isInner, same⟩ := List.mem_map.mp inGroup
        cases same
        rw [find?, if_pos rfl, childrenIh childrenProper isInner]
      · have found := restIh restProper inRest
        obtain ⟨first, more, rfl, other⟩ := exists_head_of_find? fresh found
        rw [find?, if_neg other, found]

/-! ## Maps behind each other -/

/-- The rows of a map behind those of another one. -/
def append : FieldMap → FieldMap → FieldMap
  | .empty, others => others
  | .leaf key value rest, others => .leaf key value (append rest others)
  | .group key children rest, others => .group key children (append rest others)

@[simp] theorem append_empty (fields : FieldMap) : fields.append .empty = fields := by
  induction fields with
  | empty => rfl
  | leaf key value rest ih => rw [append, ih]
  | group key children rest _ ih => rw [append, ih]

theorem append_assoc (first second third : FieldMap) :
    (first.append second).append third = first.append (second.append third) := by
  induction first with
  | empty => rfl
  | leaf key value rest ih => rw [append, append, append, ih]
  | group key children rest _ ih => rw [append, append, append, ih]

theorem names_append (first second : FieldMap) :
    (first.append second).names = first.names ++ second.names := by
  induction first with
  | empty => rfl
  | leaf key value rest ih => rw [append, names, ih, names, List.cons_append]
  | group key children rest _ ih => rw [append, names, ih, names, List.cons_append]

theorem row?_of_notMem_names (fresh : key ∉ fields.names) : fields.row? key = none := by
  induction fields with
  | empty => rfl
  | leaf name value rest ih =>
      rw [names, List.mem_cons, not_or] at fresh
      rw [row?, if_neg (Ne.symm fresh.1), ih fresh.2]
  | group name children rest _ ih =>
      rw [names, List.mem_cons, not_or] at fresh
      rw [row?, if_neg (Ne.symm fresh.1), ih fresh.2]

theorem putRow_of_notMem_names (fresh : key ∉ fields.names) :
    fields.putRow key row = fields.append (row.before key .empty) := by
  induction fields with
  | empty => rfl
  | leaf name value rest ih =>
      rw [names, List.mem_cons, not_or] at fresh
      rw [putRow, if_neg (Ne.symm fresh.1), ih fresh.2, append]
  | group name children rest _ ih =>
      rw [names, List.mem_cons, not_or] at fresh
      rw [putRow, if_neg (Ne.symm fresh.1), ih fresh.2, append]

theorem before_append (key : Text) (row : Row) (rest : FieldMap) :
    (row.before key .empty).append rest = row.before key rest := by
  cases row <;> rfl

theorem names_before (key : Text) (row : Row) (rest : FieldMap) :
    (row.before key rest).names = key :: rest.names := by
  cases row <;> rfl

/-! ## Writing in turn -/

/-- Entries that are written in turn, none of which meets a conflict. -/
inductive Writes : List (List Text × Leaf) → FieldMap → FieldMap → Prop where
  | none (fields : FieldMap) : Writes [] fields fields
  | next {key : Text} {more : List Text} {value : Leaf} {others : List (List Text × Leaf)}
      {before between after : FieldMap} (first : insert value key more before = .ok between)
      (rest : Writes others between after) : Writes ((key :: more, value) :: others) before after

namespace Writes

variable {before between after : FieldMap} {listed others : List (List Text × Leaf)}

theorem append (first : Writes listed before between) (second : Writes others between after) :
    Writes (listed ++ others) before after := by
  induction first with
  | none fields => exact second
  | next written _ ih => exact .next written (ih second)

/-- A write goes on in the group of its first key, which is made if it is not there. -/
theorem insert_inside {children inside : FieldMap} {value : Leaf} {next : Text}
    {more : List Text} (isGroup : Row.children? (front.row? key) = some children)
    (written : insert value next more children = .ok inside) :
    insert value key (next :: more) front = .ok (front.putRow key (.group inside)) := by
  rw [insert_eq_map_write]
  cases isRow : front.row? key with
  | none =>
      rw [isRow] at isGroup
      cases isGroup
      cases written
      rfl
  | some row =>
      rw [isRow] at isGroup
      cases row with
      | leaf held => cases isGroup
      | group inner =>
          cases isGroup
          rw [Row.write, written]
          rfl

/-- Writes in a group are writes in the map, under the key of the group. -/
theorem inside {children : FieldMap} (writes : Writes listed children after)
    (filled : listed ≠ []) (isGroup : Row.children? (front.row? key) = some children) :
    Writes (listed.map (underKey key)) front (front.putRow key (.group after)) := by
  induction writes generalizing front with
  | none fields => exact absurd rfl filled
  | @next first more value others _ between after written rest ih =>
      refine .next (insert_inside isGroup written) ?_
      cases others with
      | nil =>
          cases rest
          exact .none _
      | cons second others =>
          -- from here on the group stands in its row, and is written again in its place
          have isRow := row?_putRow_self key (.group between) front
          have goesOn := ih (List.cons_ne_nil second others)
            (show Row.children? ((front.putRow key (.group between)).row? key) = some between by
              rw [isRow]
              rfl)
          rwa [putRow_putRow] at goesOn

end Writes

theorem Proper.entries_ne_nil (proper : fields.Proper) (filled : fields ≠ .empty) :
    fields.entries ≠ [] := by
  intro noEntry
  apply proper.paths_ne_nil filled
  rw [← map_fst_entries, noEntry, List.map_nil]

/-- Keys that are new before a row are new behind it, since the row has another key. -/
theorem notMem_names_behind {rest : FieldMap} (fresh : ∀ name ∈ rest.names, name ∉ front.names)
    (isNew : key ∉ rest.names) (row : Row) :
    ∀ name ∈ rest.names, name ∉ (front.append (row.before key .empty)).names := by
  intro name isName
  rw [names_append, names_before, names, List.mem_append, List.mem_singleton, not_or]
  refine ⟨fresh name isName, ?_⟩
  intro same
  rw [same] at isName
  exact isNew isName

/-- The entries of a proper map put its rows behind those that are there, if no key is
there already. -/
theorem Proper.writes_entries (proper : fields.Proper)
    (fresh : ∀ name ∈ fields.names, name ∉ front.names) :
    Writes fields.entries front (front.append fields) := by
  induction fields generalizing front with
  | empty =>
      rw [append_empty]
      exact .none front
  | leaf name value rest ih =>
      obtain ⟨_, isNew, restProper⟩ := proper
      rw [names, List.forall_mem_cons] at fresh
      have written : FieldMap.insert value name [] front =
          .ok (front.append (.leaf name value .empty)) := by
        rw [insert_eq_map_write, row?_of_notMem_names fresh.1]
        exact congrArg Except.ok (putRow_of_notMem_names fresh.1)
      have others := ih restProper (notMem_names_behind fresh.2 isNew (.leaf value))
      rw [append_assoc, before_append] at others
      exact .next written others
  | group name children rest childrenIh restIh =>
      obtain ⟨_, isNew, filled, childrenProper, restProper⟩ := proper
      rw [names, List.forall_mem_cons] at fresh
      have alone : Writes children.entries .empty children :=
        childrenIh childrenProper (fun _ _ => List.not_mem_nil)
      have isMade : Row.children? (front.row? name) = some .empty := by
        rw [row?_of_notMem_names fresh.1]
        rfl
      have inGroup := alone.inside (childrenProper.entries_ne_nil filled) isMade
      rw [putRow_of_notMem_names fresh.1] at inGroup
      have others := restIh restProper (notMem_names_behind fresh.2 isNew (.group children))
      rw [append_assoc, before_append] at others
      exact inGroup.append others

/-! ## Copying a map -/

/-- Why a field was not copied: its path cannot be asked for, or its value is not stored. -/
inductive CopyFault where
  | get (fault : Value.SplitFault)
  | set (fault : SetFault)

/-- Store at some paths, in turn and up to the first fault, what a map answers there. -/
def copyTo (source : FieldMap) : (paths : List Text) → FieldMap → Except CopyFault FieldMap
  | [], target => .ok target
  | path :: paths, target =>
    match source.get (.str path) .null with
    | .error fault => .error (.get fault)
    | .ok value =>
      match target.set (.str path) value with
      | .error fault => .error (.set fault)
      | .ok after => copyTo source paths after

/-- Entries of a proper map are copied as they are written. -/
theorem Proper.copyTo_of_writes {source before after : FieldMap} (proper : source.Proper)
    {listed : List (List Text × Leaf)} (ofSource : ∀ entry ∈ listed, entry ∈ source.entries)
    (writes : Writes listed before after) :
    source.copyTo (listed.map fun entry => pathOf entry.1) before = .ok after := by
  induction writes with
  | none fields => rfl
  | @next first more value others before between after written _ ih =>
      rw [List.forall_mem_cons] at ofSource
      have found := proper.find?_of_mem_entries ofSource.1
      have parts := proper.isSegment_of_mem_paths
        (proper.mem_paths_iff.mpr (Option.isSome_of_eq_some found))
      have cut : segments (pathOf (first :: more)) = first :: more :=
        segments_pathOf (List.cons_ne_nil first more) parts
      have isPath : IsPath (.str (pathOf (first :: more))) := by
        rw [isPath_str_iff, cut]
        exact fun part member => (parts part member).nonempty
      have asked : source.get (.str (pathOf (first :: more))) .null = .ok value.toValue := by
        simp only [get, Value.toSplittable, cut, found]
      have stored : before.set (.str (pathOf (first :: more))) value.toValue = .ok between := by
        rw [set_toValue isPath cut, written]
        rfl
      simp only [List.map_cons, copyTo, asked, stored]
      exact ih ofSource.2

/-- Every map that was filled by writes, of which some may have failed, is rebuilt from its
mask: when the value at each listed path is stored in an empty map, in the order of the list,
no write meets a fault, and the map that they fill is the same with all its rows in order. -/
theorem rebuilt_from_mask (calls : List (Value × Value)) :
    let fields := empty.storeAll calls
    fields.copyTo fields.mask empty = .ok fields := by
  intro fields
  have proper : fields.Proper := Proper.storeAll (show empty.Proper from trivial) calls
  have writes : Writes fields.entries empty fields :=
    proper.writes_entries fun _ _ => List.not_mem_nil
  have copied := proper.copyTo_of_writes (fun _ member => member) writes
  rwa [mask_eq_map_paths, ← map_fst_entries, List.map_map]

end SamlAdmin.FieldMap
