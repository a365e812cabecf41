import SamlAdmin.Text

/-!
# Members by name

Objects, headers and tables of variables are lists of members with a name each, in
the order in which the names came up first.  `Members.lookup` answers for a name,
and `Members.insert` stores a member in the place that its name already has.
-/

namespace SamlAdmin.Members

variable {α : Type}

/-- What stands under a key. -/
def lookup (key : Text) : List (Text × α) → Option α
  | [] => none
  | (name, value) :: rest => if name = key then some value else lookup key rest

/-- Store a member: a key that is present keeps its place and takes the new
value, a new key goes to the end. -/
def insert (key : Text) (value : α) : List (Text × α) → List (Text × α)
  | [] => [(key, value)]
  | (name, old) :: rest =>
    if name = key then (name, value) :: rest else (name, old) :: insert key value rest

theorem lookup_insert_self (key : Text) (value : α) (members : List (Text × α)) :
    lookup key (insert key value members) = some value := by
  induction members with
  | nil => simp [insert, lookup]
  | cons member rest ih =>
    obtain ⟨name, old⟩ := member
    by_cases same : name = key <;> simp [insert, lookup, same, ih]

theorem lookup_insert_of_ne {key other : Text} (different : other ≠ key) (value : α)
    (members : List (Text × α)) :
    lookup other (insert key value members) = lookup other members := by
  induction members with
  | nil => simp [insert, lookup, Ne.symm different]
  | cons member rest ih =>
    obtain ⟨name, old⟩ := member
    by_cases same : name = key
    · subst same
      simp [insert, lookup, Ne.symm different]
    · by_cases found : name = other
      · subst found
        simp [insert, lookup, same]
      · simp [insert, lookup, same, found, ih]

end SamlAdmin.Members
