/-!
# Results of steps

A definition often takes the result of one step and changes it, or puts its fault into a
fault of its own.  Its success is then the success of the step.
-/

namespace SamlAdmin

variable {α β ε φ : Type} {step : Except ε α}

@[simp] theorem mapError_eq_ok_iff {wrap : ε → φ} {value : α} :
    step.mapError wrap = .ok value ↔ step = .ok value := by
  cases step with
  | error fault => exact iff_of_false nofun nofun
  | ok other =>
      constructor
      · intro same
        cases same
        rfl
      · intro same
        cases same
        rfl

@[simp] theorem map_eq_ok_iff {change : α → β} {result : β} :
    step.map change = .ok result ↔ ∃ value, step = .ok value ∧ change value = result := by
  cases step with
  | error fault =>
      constructor
      · intro failed
        cases failed
      · rintro ⟨value, failed, _⟩
        cases failed
  | ok other =>
      constructor
      · intro same
        exact ⟨other, rfl, Except.ok.inj same⟩
      · rintro ⟨value, same, rfl⟩
        cases same
        rfl

theorem mapError_eq_error_iff {wrap : ε → φ} {fault : φ} :
    step.mapError wrap = .error fault ↔ ∃ cause, step = .error cause ∧ wrap cause = fault := by
  cases step with
  | error other =>
      constructor
      · intro same
        exact ⟨other, rfl, Except.error.inj same⟩
      · rintro ⟨cause, same, rfl⟩
        cases same
        rfl
  | ok value =>
      constructor
      · intro failed
        cases failed
      · rintro ⟨cause, failed, _⟩
        cases failed

@[simp] theorem map_eq_error_iff {change : α → β} {fault : ε} :
    step.map change = .error fault ↔ step = .error fault := by
  cases step with
  | error other =>
      constructor
      · intro same
        cases same
        rfl
      · intro same
        cases same
        rfl
  | ok value => exact iff_of_false nofun nofun

theorem bind_eq_ok_iff {next : α → Except ε β} {result : β} :
    step.bind next = .ok result ↔ ∃ value, step = .ok value ∧ next value = .ok result := by
  cases step with
  | error fault =>
      constructor
      · intro failed
        cases failed
      · intro succeeded
        obtain ⟨value, failed, _⟩ := succeeded
        cases failed
  | ok other =>
      constructor
      · intro same
        exact ⟨other, rfl, same⟩
      · intro succeeded
        obtain ⟨value, same, result⟩ := succeeded
        cases same
        exact result

theorem bind_eq_error_iff {next : α → Except ε β} {fault : ε} :
    step.bind next = .error fault ↔
      step = .error fault ∨ ∃ value, step = .ok value ∧ next value = .error fault := by
  cases step with
  | error other =>
      constructor
      · intro same
        cases same
        exact Or.inl rfl
      · rintro (same | ⟨value, failed, _⟩)
        · cases same
          rfl
        · cases failed
  | ok value =>
      constructor
      · intro failed
        exact Or.inr ⟨value, rfl, failed⟩
      · rintro (failed | ⟨other, same, failed⟩)
        · cases failed
        · cases same
          exact failed

end SamlAdmin
