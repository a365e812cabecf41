import SamlAdmin.Members

/-!
# Looking up members

A lookup finds the first member with a key.  Where no key comes twice it finds the only one,
so the order of the members does not matter.
-/

namespace SamlAdmin.Members

variable {α : Type} {key : Text} {value : α} {left right members : List (Text × α)}

theorem lookup_append (key : Text) (left right : List (Text × α)) :
    lookup key (left ++ right) = (lookup key left).or (lookup key right) := by
  induction left with
  | nil => rfl
  | cons member rest ih =>
      obtain ⟨name, given⟩ := member
      by_cases same : name = key
      · simp [lookup, same]
      · simp [lookup, same, ih]

theorem lookup_append_cons_of_ne {other : Text} (different : key ≠ other) (value : α)
    (left right : List (Text × α)) :
    lookup other (left ++ (key, value) :: right) = lookup other (left ++ right) := by
  rw [lookup_append, lookup, if_neg different, ← lookup_append]

theorem mem_of_lookup (found : lookup key members = some value) : (key, value) ∈ members := by
  induction members with
  | nil => cases found
  | cons member rest ih =>
      obtain ⟨name, given⟩ := member
      by_cases same : name = key
      · subst same
        rw [lookup, if_pos rfl] at found
        cases found
        exact List.mem_cons_self
      · rw [lookup, if_neg same] at found
        exact List.mem_cons_of_mem _ (ih found)

theorem lookup_isSome_iff : (lookup key members).isSome = true ↔ key ∈ members.map Prod.fst := by
  induction members with
  | nil => simp [lookup]
  | cons member rest ih =>
      obtain ⟨name, given⟩ := member
      by_cases same : name = key
      · simp [lookup, same]
      · simp [lookup, same, Ne.symm same, ih]

theorem lookup_of_mem (distinct : (members.map Prod.fst).Nodup) (member : (key, value) ∈ members) :
    lookup key members = some value := by
  induction members with
  | nil => cases member
  | cons first rest ih =>
      obtain ⟨name, given⟩ := first
      rw [List.map_cons, List.nodup_cons] at distinct
      cases List.mem_cons.mp member with
      | inl same =>
          cases same
          rw [lookup, if_pos rfl]
      | inr inRest =>
          have different : name ≠ key := by
            intro same
            apply distinct.1
            rw [same]
            exact List.mem_map.mpr ⟨(key, value), inRest, rfl⟩
          rw [lookup, if_neg different]
          exact ih distinct.2 inRest

theorem lookup_eq_of_perm (distinct : (left.map Prod.fst).Nodup) (perm : left.Perm right)
    (key : Text) : lookup key left = lookup key right := by
  have distinctRight : (right.map Prod.fst).Nodup := (perm.map Prod.fst).nodup_iff.mp distinct
  apply Option.ext
  intro value
  constructor
  · intro found
    exact lookup_of_mem distinctRight (perm.mem_iff.mp (mem_of_lookup found))
  · intro found
    exact lookup_of_mem distinct (perm.mem_iff.mpr (mem_of_lookup found))

/-- A member that is stored takes the place of the one with its key. -/
theorem insert_perm (distinct : (members.map Prod.fst).Nodup) :
    (insert key value members).Perm
      ((key, value) :: members.filter fun member => member.1 ≠ key) := by
  induction members with
  | nil => exact .refl _
  | cons member rest ih =>
      obtain ⟨name, given⟩ := member
      obtain ⟨isNew, distinctRest⟩ := List.nodup_cons.mp distinct
      by_cases same : name = key
      · have others : rest.filter (fun member => member.1 ≠ key) = rest := by
          refine List.filter_eq_self.mpr fun member inRest => decide_eq_true fun equal => ?_
          exact isNew (List.mem_map.mpr ⟨member, inRest, equal.trans same.symm⟩)
        rw [insert, if_pos same, List.filter_cons_of_neg (by simp [same]), others, same]
      · rw [insert, if_neg same, List.filter_cons_of_pos (by simp [same])]
        exact ((ih distinctRest).cons _).trans (.swap _ _ _)

theorem nodup_insert (distinct : (members.map Prod.fst).Nodup) (key : Text) (value : α) :
    ((insert key value members).map Prod.fst).Nodup := by
  rw [((insert_perm distinct).map Prod.fst).nodup_iff, List.map_cons, List.nodup_cons]
  constructor
  · intro isKept
    obtain ⟨member, kept, same⟩ := List.mem_map.mp isKept
    exact of_decide_eq_true (List.mem_filter.mp kept).2 same
  · exact distinct.sublist (List.filter_sublist.map Prod.fst)

end SamlAdmin.Members
