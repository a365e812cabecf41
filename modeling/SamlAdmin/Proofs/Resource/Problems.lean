import SamlAdmin.Proofs.Resource.Listing

/-!
# The problems of a list

A reading that goes through the parts of a value finds the problems of each part, in the order
of the parts.  So a list of resources is refused with the problems that its items have when
they are read alone, each behind the name of the list and the position of its item.
-/

namespace SamlAdmin

/-- A problem as seen from some steps further out. -/
def Problem.behind (steps : List PlaceStep) (problem : Problem) : Problem :=
  { problem with place := steps ++ problem.place }

namespace Reading

variable {α β : Type}

def problems : Reading α → List Problem
  | .ok _ => []
  | .error problems => problems

@[simp] theorem problems_map (reading : Reading α) (change : α → β) :
    problems (reading.map change) = reading.problems := by
  cases reading <;> rfl

@[simp] theorem problems_within (step : PlaceStep) (reading : Reading α) :
    (reading.within step).problems = reading.problems.map (.behind [step]) := by
  cases reading <;> rfl

@[simp] theorem problems_both (left : Reading α) (right : Reading β) :
    (left.both right).problems = left.problems ++ right.problems := by
  cases left with
  | ok first => cases right <;> rfl
  | error firstProblems =>
      cases right with
      | ok second => exact (List.append_nil firstProblems).symm
      | error secondProblems => rfl

/-- The problems of a list are those of its items in order, each behind its position. -/
theorem problems_items (read : Value → Reading α) (position : Nat) (values : List Value) :
    (items read position values).problems = (values.zipIdx position).flatMap fun (value, index) =>
      (read value).problems.map (.behind [.index index]) := by
  induction values generalizing position with
  | nil => rfl
  | cons value values ih =>
      rw [items, problems_map, problems_both, problems_within, ih, List.zipIdx_cons,
        List.flatMap_cons]

end Reading

/-- The problems for which a body was refused. -/
def Refused.problemsOf {α : Type} : Except Refused α → List Problem
  | .ok _ => []
  | .error refused => refused.problems

theorem Refused.problemsOf_mapError {α : Type} (reading : Reading α) (document : Text) :
    problemsOf (reading.mapError (⟨document, ·⟩)) = reading.problems := by
  cases reading <;> rfl

namespace ResourceList

variable {members : List (Text × Value)} {items : List Value} {key : Text}

/-- A body with a list of resources and a token that can be read is read item by item. -/
theorem read_eq_items
    (listed : Reading.effective ⟨"inboundSamlConfigs", "inbound_saml_configs"⟩ members =
      some (key, .list items))
    (token : ∀ name value, Reading.effective ⟨"nextPageToken", "next_page_token"⟩ members =
      some (name, value) → value = .null ∨ value.IsText) :
    ∃ nextPageToken, read (.object members) =
      ((Reading.items Resource.read 0 items).within (.key key)).map (⟨·, nextPageToken⟩) := by
  have accepts := Reading.accepts_text.optional.field ⟨"nextPageToken", "next_page_token"⟩ none
  obtain ⟨nextPageToken, tokenRead⟩ := (accepts members).mpr token
  refine ⟨nextPageToken, ?_⟩
  have resourcesRead : Reading.field ⟨"inboundSamlConfigs", "inbound_saml_configs"⟩
      (Reading.list Resource.read) [] members =
        (Reading.items Resource.read 0 items).within (.key key) := by
    rw [Reading.field, listed]
    rfl
  rw [read, Reading.sectionOf, resourcesRead, tokenRead]
  cases (Reading.items Resource.read 0 items).within (.key key) with
  | ok resources => rfl
  | error problems => rfl

end ResourceList

end SamlAdmin
