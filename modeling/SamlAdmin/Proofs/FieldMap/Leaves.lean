import SamlAdmin.Members
import SamlAdmin.Proofs.FieldMap.Mask

/-!
# The leaves of a body

The body of a request nests objects, and what is no object is a leaf of it.  Reading the
leaves off the body of a field map gives the paths of the map again, in the same order,
and at each path stands what the map holds there.
-/

namespace SamlAdmin

namespace Value

mutual

/-- The paths of the leaves of a value, depth first.  Every value but an object is a
leaf, a list as a whole. -/
def leafPaths : Value → List (List Text)
  | .object members => memberPaths members
  | _ => [[]]

def memberPaths : List (Text × Value) → List (List Text)
  | [] => []
  | (key, value) :: rest => (leafPaths value).map (key :: ·) ++ memberPaths rest

end

def dottedPaths (value : Value) : List Text := value.leafPaths.map FieldMap.pathOf

def at? : (path : List Text) → Value → Option Value
  | [], value => some value
  | key :: more, .object members => (Members.lookup key members).bind (at? more)
  | _ :: _, _ => none

mutual

/-- Whether a value is null or has a null in it, at any depth. -/
def holdsNull : Value → Bool
  | .null => true
  | .list items => itemsHoldNull items
  | .tuple items => itemsHoldNull items
  | .object members => membersHoldNull members
  | _ => false

def itemsHoldNull : List Value → Bool
  | [] => false
  | item :: items => item.holdsNull || itemsHoldNull items

def membersHoldNull : List (Text × Value) → Bool
  | [] => false
  | (_, value) :: members => value.holdsNull || membersHoldNull members

end

theorem membersHoldNull_of_lookup {key : Text} {members : List (Text × Value)} {value : Value}
    (found : Members.lookup key members = some value) (null : value.holdsNull = true) :
    membersHoldNull members = true := by
  induction members with
  | nil => cases found
  | cons member rest ih =>
      obtain ⟨name, other⟩ := member
      rw [Members.lookup] at found
      rw [membersHoldNull, Bool.or_eq_true]
      by_cases same : name = key
      · rw [if_pos same] at found
        cases found
        exact Or.inl null
      · rw [if_neg same] at found
        exact Or.inr (ih found)

theorem holdsNull_of_at? {path : List Text} {value : Value}
    (found : value.at? path = some .null) : value.holdsNull = true := by
  induction path generalizing value with
  | nil =>
      cases found
      rfl
  | cons key more ih =>
      cases value with
      | object members =>
          obtain ⟨inner, isMember, isNull⟩ := Option.bind_eq_some_iff.mp found
          exact membersHoldNull_of_lookup isMember (ih isNull)
      | _ => cases found

end Value

namespace FieldMap

theorem leafPaths_leaf (leaf : Leaf) : leaf.toBody.leafPaths = [[]] := by
  cases leaf with
  | text value => rfl
  | flag value => rfl
  | cleared => rfl
  | certificates value => rfl

theorem memberPaths_members (fields : FieldMap) :
    Value.memberPaths fields.members = fields.paths := by
  induction fields with
  | empty => rfl
  | leaf key value rest ih =>
      rw [members, Value.memberPaths, leafPaths_leaf, ih, paths]
      rfl
  | group key children rest childrenIh restIh =>
      rw [members, Value.memberPaths, Value.leafPaths, childrenIh, restIh, paths]

/-- The leaves of a body are the fields that its mask lists. -/
theorem dottedPaths_toBody (fields : FieldMap) : fields.toBody.dottedPaths = fields.mask := by
  rw [Value.dottedPaths, toBody, Value.leafPaths, memberPaths_members, mask_eq_map_paths]

theorem Proper.mem_leafPaths_iff {fields : FieldMap} (proper : fields.Proper) {path : List Text} :
    path ∈ fields.toBody.leafPaths ↔ (fields.find? path).isSome = true := by
  rw [toBody, Value.leafPaths, memberPaths_members, proper.mem_paths_iff]

/-- At the path of a leaf stands what the leaf becomes in a body. -/
theorem at?_toBody {fields : FieldMap} {path : List Text} {leaf : Leaf}
    (found : fields.find? path = some leaf) : fields.toBody.at? path = some leaf.toBody := by
  cases path with
  | nil => cases fields <;> cases found
  | cons key more =>
      induction fields generalizing key more with
      | empty => cases found
      | leaf name value rest ih =>
          by_cases same : name = key
          · subst same
            cases more with
            | nil =>
                rw [find?, if_pos rfl] at found
                cases found
                simp [toBody, members, Value.at?, Members.lookup]
            | cons next others =>
                rw [find?, if_pos rfl] at found
                cases found
          · rw [find?, if_neg same] at found
            have inRest := ih key more found
            rw [toBody, Value.at?] at inRest ⊢
            rw [members, Members.lookup, if_neg same]
            exact inRest
      | group name children rest childrenIh restIh =>
          by_cases same : name = key
          · subst same
            rw [find?, if_pos rfl] at found
            cases more with
            | nil => cases children <;> cases found
            | cons next others =>
                have inside := childrenIh next others found
                rw [toBody, Value.at?, members, Members.lookup, if_pos rfl]
                exact inside
          · rw [find?, if_neg same] at found
            have inRest := restIh key more found
            rw [toBody, Value.at?] at inRest ⊢
            rw [members, Members.lookup, if_neg same]
            exact inRest

theorem itemsHoldNull_certificates (certificates : List Certificate) :
    Value.itemsHoldNull (certificates.map Leaf.certificateBody) = false := by
  induction certificates with
  | nil => rfl
  | cons certificate rest ih =>
      rw [List.map_cons, Value.itemsHoldNull, ih]
      rfl

theorem holdsNull_leaf_iff {leaf : Leaf} : leaf.toBody.holdsNull = true ↔ leaf = .cleared := by
  cases leaf with
  | cleared => exact iff_of_true rfl rfl
  | certificates certificates =>
      rw [Leaf.toBody, Value.holdsNull, itemsHoldNull_certificates]
      simp
  | _ => exact iff_of_false nofun nofun

/-- There is a null in the body of a proper map exactly if the map has a cleared field. -/
theorem Proper.holdsNull_toBody_iff {fields : FieldMap} (proper : fields.Proper) :
    fields.toBody.holdsNull = true ↔ ∃ path, fields.find? path = some .cleared := by
  constructor
  · rw [toBody, Value.holdsNull]
    intro null
    induction fields with
    | empty => cases null
    | leaf name value rest ih =>
        obtain ⟨_, fresh, restProper⟩ := proper
        rw [members, Value.membersHoldNull, Bool.or_eq_true, holdsNull_leaf_iff] at null
        rcases null with rfl | inRest
        · exact ⟨[name], by simp [find?]⟩
        · obtain ⟨path, found⟩ := ih restProper inRest
          obtain ⟨key, more, rfl, other⟩ := exists_head_of_find? fresh found
          exact ⟨key :: more, by rw [find?, if_neg other, found]⟩
    | group name children rest childrenIh restIh =>
        obtain ⟨_, fresh, _, childrenProper, restProper⟩ := proper
        rw [members, Value.membersHoldNull, Value.holdsNull, Bool.or_eq_true] at null
        rcases null with inGroup | inRest
        · obtain ⟨path, found⟩ := childrenIh childrenProper inGroup
          exact ⟨name :: path, by simp [find?, found]⟩
        · obtain ⟨path, found⟩ := restIh restProper inRest
          obtain ⟨key, more, rfl, other⟩ := exists_head_of_find? fresh found
          exact ⟨key :: more, by rw [find?, if_neg other, found]⟩
  · intro cleared
    obtain ⟨path, found⟩ := cleared
    exact Value.holdsNull_of_at? (at?_toBody found)

end FieldMap

end SamlAdmin
